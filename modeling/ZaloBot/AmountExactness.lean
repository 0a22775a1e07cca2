import Mathlib.Data.Rat.Cast.Order
import Mathlib.Tactic.FieldSimp
import Mathlib.Tactic.Ring
import ZaloBot.AmountArithmetic

/-!
# Exact amounts

The number that a text denotes, and that `parse_single_amount` returns exactly
this number or an error.  The one text that it does not read is a bad number
before a Kelvin sign: that letter is a `k` in lowercase, but longer than one.
-/

namespace ZaloBot

namespace Conversation

open RustText

variable {endsWord : SigmaRule}

section Multipliers

/-- The Kelvin sign, which is written `k` in lowercase. -/
def kelvinSign : Char := Char.ofNat 8490

/-- The letters of the multipliers are as long as the letters that they are the
lowercase of, except for `k`. -/
theorem multiplier_letters : ∀ entry ∈ multipliers, ∀ char ∈ entry.1,
    isPlainImage char = true ∧
      ∀ code ∈ preimages lowercaseRuns char.toNat,
        (Char.ofNat code).utf8Size = char.utf8Size ∨
          Char.ofNat code = kelvinSign ∧ entry.1 = ['k'] := by
  decide

/-- The multiplier at the end of a text, cut off by its length in
characters. -/
def cutMultiplier (endsWord : SigmaRule) (text : List Char) :
    Int × List Char :=
  match multipliers.find? (·.1.isSuffixOf (toLowercase endsWord text)) with
  | none => (1, text)
  | some (ending, factor) =>
      (factor, trimChars (text.take (text.length - ending.length)))

theorem cutMultiplier_factor_pos (endsWord : SigmaRule) (text : List Char) :
    0 < (cutMultiplier endsWord text).1 := by
  unfold cutMultiplier
  split
  · exact Int.one_pos
  · rename_i ending factor found
    have positive : ∀ entry ∈ multipliers, 0 < entry.2 := by decide
    exact positive _ (List.mem_of_find?_eq_some found)

theorem byteLength_eq_of_forall₂ {relation : Char → Char → Prop}
    {letters images : List Char}
    (matched : List.Forall₂ relation letters images)
    (sized : ∀ letter ∈ letters, ∀ image ∈ images, relation letter image →
      letter.utf8Size = image.utf8Size) :
    byteLength letters = byteLength images := by
  induction matched with
  | nil => rfl
  | cons head _ ih =>
      rw [byteLength_cons, byteLength_cons,
        sized _ (by simp) _ (by simp) head,
        ih fun letter inLetters image inImages =>
          sized letter (by simp [inLetters]) image (by simp [inImages])]

/-- A text whose lowercase ends in a multiplier ends in as many letters that
take as many bytes, unless it ends in a Kelvin sign. -/
theorem multiplier_suffix {text : List Char} {entry : List Char × Int}
    (member : entry ∈ multipliers)
    (ends : entry.1 <:+ toLowercase endsWord text)
    (notKelvin : text.getLast? ≠ some kelvinSign) :
    ∃ front back, text = front ++ back ∧
      back.length = entry.1.length ∧
      byteLength back = byteLength entry.1 ∧
      List.Forall₂ (fun char image => char = image ∨
        char.toNat ∈ preimages lowercaseRuns image.toNat) back entry.1 := by
  obtain ⟨lowerFront, isLower⟩ := ends
  have lowers := lowered_toLowercase endsWord text
  rw [← isLower] at lowers
  obtain ⟨front, back, rfl, _, matched⟩ := lowers.suffix_inv
    fun char inWord => (multiplier_letters entry member char inWord).1
  refine ⟨front, back, rfl, matched.length_eq,
    byteLength_eq_of_forall₂ matched ?_, matched⟩
  intro letter inBack image inWord source
  rcases source with rfl | preimage
  · rfl
  rcases (multiplier_letters entry member image inWord).2 _ preimage with
    sized | ⟨isKelvin, isWord⟩
  · rwa [Char.ofNat_toNat] at sized
  · rw [Char.ofNat_toNat] at isKelvin
    have one := matched.length_eq
    rw [isWord, List.length_singleton, List.length_eq_one_iff] at one
    obtain ⟨only, rfl⟩ := one
    rw [List.mem_singleton.mp inBack] at isKelvin
    exact absurd (by simp [isKelvin]) notKelvin

/-- Without a Kelvin sign at the end, cutting off a multiplier by its length in
bytes is cutting it off by its length in characters. -/
theorem stripMultiplier_eq {text : List Char}
    (notKelvin : text.getLast? ≠ some kelvinSign) :
    stripMultiplier endsWord text = .ok (cutMultiplier endsWord text) := by
  unfold stripMultiplier cutMultiplier
  simp only
  cases found : multipliers.find?
      (·.1.isSuffixOf (toLowercase endsWord text)) with
  | none => rfl
  | some entry =>
      obtain ⟨ending, factor⟩ := entry
      have member := List.mem_of_find?_eq_some found
      have ends : ending.isSuffixOf (toLowercase endsWord text) = true := by
        simpa using List.find?_some found
      obtain ⟨front, back, rfl, sameLength, sameBytes, _⟩ :=
        multiplier_suffix member (List.isSuffixOf_iff_suffix.mp ends) notKelvin
      simp only at sameLength sameBytes ⊢
      rw [byteLength_append, sameBytes, Nat.add_sub_cancel,
        if_neg (by omega), sliceTo_append, ok_bind]
      simp [← sameLength]

theorem lowercase_kelvinSign {piece : List Char}
    (lowercase : IsLowercase kelvinSign piece) : piece = ['k'] := by
  rcases lowercase with rfl | ⟨sigma, _⟩
  · decide
  · exact absurd sigma (by decide)

/-- A Kelvin sign at the end is cut inside. -/
theorem stripMultiplier_kelvin {text : List Char}
    (kelvin : text.getLast? = some kelvinSign) :
    stripMultiplier endsWord text = .error .slice := by
  obtain ⟨front, rfl⟩ := List.getLast?_eq_some_iff.mp kelvin
  obtain ⟨lowerFront, piece, isLower, _, lowercase⟩ :=
    (lowered_toLowercase endsWord (front ++ [kelvinSign])).concat_inv
  rw [lowercase_kelvinSign lowercase] at isLower
  have found : multipliers.find? (·.1.isSuffixOf (lowerFront ++ ['k'])) =
      some (['k'], 1000) := by
    simp [multipliers, List.isSuffixOf, List.isPrefixOf]
  have three : kelvinSign.utf8Size = 3 := by decide
  have whole : byteLength (front ++ [kelvinSign]) = byteLength front + 3 := by
    simp [three]
  have one : byteLength ['k'] = 1 := by decide
  simp only [stripMultiplier, isLower, found, whole, one]
  rw [if_neg (by omega), sliceTo_inside (by omega) (by omega)]
  rfl

end Multipliers

section Numerals

variable {digitsOnly digits body : List Char} {currency : String}
  {factor : Int}

/-- A number in text: the digits around its decimal point and the multiplier
behind it. -/
structure Numeral where
  whole : List Char
  fraction : List Char
  factor : Int
deriving DecidableEq, Repr

/-- The number of minor units that a numeral denotes. -/
def Numeral.amount (numeral : Numeral) (places : Nat) : ℚ :=
  numberOf (numeral.whole ++ numeral.fraction) / 10 ^ numeral.fraction.length *
    numeral.factor * 10 ^ places

/-- A numeral that is no amount: not a whole count of minor units, too large,
or too long. -/
def Numeral.Bad (numeral : Numeral) (places : Nat) : Prop :=
  (¬ ∃ minor : Int, (minor : ℚ) = numeral.amount places) ∨
    (maxI64 : ℚ) < numeral.amount places ∨
    15 < (numeral.whole ++ numeral.fraction).length ∨
    4 < numeral.fraction.length

/-- The numeral that digits and separators write: a separator that is not the
decimal point groups digits. -/
def numeralOf (digitsOnly : List Char) (currency : String) (factor : Int) :
    Numeral :=
  match decimalSplit digitsOnly currency factor with
  | none => ⟨stripSeparators digitsOnly, [], factor⟩
  | some (front, _, fraction) => ⟨stripSeparators front, fraction, factor⟩

/-- The numeral that a text writes. -/
def readNumeral (endsWord : SigmaRule) (body : List Char)
    (currency : String) : Except AmountError Numeral :=
  let (factor, rest) := cutMultiplier endsWord (trimChars body)
  (keepDigits rest).map fun digitsOnly => numeralOf digitsOnly currency factor

theorem keepDigits_kept {text : List Char}
    (keeps : keepDigits text = .ok digitsOnly) :
    ∀ char ∈ digitsOnly, IsKept char := by
  induction text generalizing digitsOnly with
  | nil =>
      cases keeps
      simp
  | cons first rest ih =>
      rw [keepDigits] at keeps
      split at keeps
      · rename_i kept
        cases inRest : keepDigits rest with
        | error error => simp [inRest, Except.map] at keeps
        | ok inner =>
            simp only [inRest, Except.map, Except.ok.injEq] at keeps
            subst keeps
            intro char member
            rcases List.mem_cons.mp member with rfl | member
            · simpa [IsKept] using kept
            · exact ih inRest char member
      · split at keeps
        · exact ih keeps
        · nomatch keeps

/-- What is read exactly: the number itself, within all limits. -/
def Exact (numeral : Numeral) (places : Nat) (minor : Int) : Prop :=
  (minor : ℚ) = numeral.amount places ∧ minor ≤ maxI64 ∧
    (numeral.whole ++ numeral.fraction).length ≤ 15 ∧
    numeral.fraction.length ≤ 4

theorem Exact.not_bad {numeral : Numeral} {places : Nat} {minor : Int}
    (exact : Exact numeral places minor) : ¬ numeral.Bad places := by
  obtain ⟨same, bounded, short, shortFraction⟩ := exact
  rintro (notWhole | large | long | longFraction)
  · exact notWhole ⟨minor, same⟩
  · rw [← same] at large
    exact absurd (Int.cast_le.mpr bounded) (not_le.mpr large)
  · omega
  · omega

/-- The currency that an amount is returned with. -/
def IsReadAs (currency read : String) : Prop :=
  read = currency ∨ read = upperCurrency currency

/-- Without a decimal point. -/
theorem finishAmount_exact (all : ∀ char ∈ digits, isDigit char = true)
    (positive : 0 < factor) :
    ∃ result, finishAmount digits currency factor = .ok result ∧
      ∀ minor read, result = .ok (minor, read) →
        Exact ⟨digits, [], factor⟩ (currencyDecimalPlaces currency) minor ∧
          IsReadAs currency read := by
  rw [finishAmount_eq all positive]
  split
  · exact ⟨_, rfl, nofun⟩
  · split
    · exact ⟨_, rfl, nofun⟩
    · rename_i short
      split
      · exact ⟨_, rfl, nofun⟩
      · rename_i bounded
        refine ⟨_, rfl, fun minor read same => ?_⟩
        cases same
        refine ⟨⟨?_, by omega, by simpa using short, by simp⟩, .inr rfl⟩
        simp only [Numeral.amount, List.append_nil, List.length_nil, pow_zero,
          div_one]
        push_cast
        ring

/-- With a decimal point. -/
theorem decimalAmount_exact {front fraction : List Char} {separator : Char}
    (kept : ∀ char ∈ front, IsKept char)
    (separates : isSeparator separator = true)
    (fractionDigits : ∀ char ∈ fraction, isDigit char = true)
    (point : isDecimalPoint (currencyDecimalPlaces currency) separator
      fraction = true)
    (positive : 0 < factor) :
    ∃ result, decimalAmount (front ++ separator :: fraction) front.length
        currency factor = .ok result ∧
      ∀ minor read, result = .ok (minor, read) →
        Exact ⟨stripSeparators front, fraction, factor⟩
          (currencyDecimalPlaces currency) minor ∧
          IsReadAs currency read := by
  rcases currencyDecimalPlaces_cases currency with places | places
  · have nonempty : fraction ≠ [] := by
      rintro rfl
      simp [isDecimalPoint, places] at point
    rw [decimalAmount_eq_of_whole kept separates fractionDigits nonempty
      positive places, places]
    simp only
    split
    · exact ⟨_, rfl, nofun⟩
    rename_i shortFraction
    split
    · exact ⟨_, rfl, nofun⟩
    rename_i short
    split
    · exact ⟨_, rfl, nofun⟩
    rename_i bounded
    split
    · exact ⟨_, rfl, nofun⟩
    rename_i isWhole
    refine ⟨_, rfl, fun minor read same => ?_⟩
    cases same
    have divides : (10 : Int) ^ fraction.length ∣
        numberOf (stripSeparators front ++ fraction) * factor :=
      Int.dvd_of_emod_eq_zero (not_not.mp isWhole)
    refine ⟨⟨?_, ?_, Nat.le_of_not_lt short, Nat.le_of_not_lt shortFraction⟩,
      .inl rfl⟩
    · rw [Int.cast_div divides (by positivity)]
      simp only [Numeral.amount, pow_zero, mul_one]
      push_cast
      ring
    · refine Int.le_trans (Int.ediv_le_self _ ?_) (by omega)
      exact Int.mul_nonneg (Int.natCast_nonneg _) (by omega)
  · have two : fraction.length = 2 := by
      simp [isDecimalPoint, places] at point
      exact point.2
    rw [decimalAmount_eq_of_hundredths kept separates fractionDigits two
      positive places, places]
    simp only
    split
    · exact ⟨_, rfl, nofun⟩
    rename_i short
    split
    · exact ⟨_, rfl, nofun⟩
    rename_i bounded
    refine ⟨_, rfl, fun minor read same => ?_⟩
    cases same
    refine ⟨⟨?_, by omega, Nat.le_of_not_lt short,
      show fraction.length ≤ 4 by omega⟩, .inl rfl⟩
    simp only [Numeral.amount, two]
    push_cast
    ring

/-- Digits and separators are read exactly or rejected. -/
theorem amountOfDigits_exact (currency : String)
    (kept : ∀ char ∈ digitsOnly, IsKept char)
    (positive : 0 < factor) :
    ∃ result, amountOfDigits digitsOnly currency factor = .ok result ∧
      ∀ minor read, result = .ok (minor, read) →
        Exact (numeralOf digitsOnly currency factor)
          (currencyDecimalPlaces currency) minor ∧
          IsReadAs currency read := by
  unfold numeralOf
  cases split : decimalSplit digitsOnly currency factor with
  | none =>
      rw [amountOfDigits_of_whole kept split]
      exact finishAmount_exact isDigit_of_mem_stripSeparators positive
  | some parts =>
      obtain ⟨front, separator, fraction⟩ := parts
      rw [amountOfDigits_of_decimal kept split]
      unfold decimalSplit at split
      split at split
      · nomatch split
      obtain ⟨found, point⟩ := Option.filter_eq_some_iff.mp split
      obtain ⟨rfl, separates, clean⟩ := splitAtLast_eq_some found
      refine decimalAmount_exact
        (fun char member => kept char (by simp [member])) separates ?_ point
        positive
      intro char member
      rcases kept char (by simp [member]) with digit | isSeparator
      · exact digit
      · simp [clean char member] at isSeparator

/-- What `parse_single_amount` does with a text that does not end in a Kelvin
sign. -/
theorem parseSingleAmount_eq
    (notKelvin : (trimChars body).getLast? ≠ some kelvinSign) :
    parseSingleAmount endsWord body currency =
      match keepDigits (cutMultiplier endsWord (trimChars body)).2 with
      | .error error => reject error
      | .ok digitsOnly =>
          amountOfDigits digitsOnly currency
            (cutMultiplier endsWord (trimChars body)).1 := by
  rw [parseSingleAmount, stripMultiplier_eq notKelvin]
  rfl

theorem parseSingleAmount_kelvin
    (kelvin : (trimChars body).getLast? = some kelvinSign) :
    parseSingleAmount endsWord body currency = .error .slice := by
  rw [parseSingleAmount, stripMultiplier_kelvin kelvin]
  rfl

/-- A text that does not end in a Kelvin sign is read exactly or rejected. -/
theorem parseSingleAmount_exact (endsWord : SigmaRule) (currency : String)
    (notKelvin : (trimChars body).getLast? ≠ some kelvinSign) :
    ∃ result, parseSingleAmount endsWord body currency = .ok result ∧
      ∀ minor read, result = .ok (minor, read) →
        (∃ numeral, readNumeral endsWord body currency = .ok numeral ∧
          Exact numeral (currencyDecimalPlaces currency) minor) ∧
          IsReadAs currency read := by
  rw [parseSingleAmount_eq notKelvin]
  unfold readNumeral
  cases keeps : keepDigits (cutMultiplier endsWord (trimChars body)).2 with
  | error error => exact ⟨_, rfl, nofun⟩
  | ok digitsOnly =>
      obtain ⟨result, reads, exact⟩ := amountOfDigits_exact currency
        (keepDigits_kept keeps)
        (cutMultiplier_factor_pos endsWord (trimChars body))
      refine ⟨result, reads, fun minor read same => ?_⟩
      obtain ⟨exactly, readAs⟩ := exact minor read same
      exact ⟨⟨_, by simp [keeps, Except.map], exactly⟩, readAs⟩

/-- Exact arithmetic: no operation overflows, what is returned is the number
that the text writes, and a bad number is an error. -/
structure ReadsExactly (endsWord : SigmaRule) (body : List Char)
    (currency : String) : Prop where
  noOverflow : parseSingleAmount endsWord body currency ≠ .error .overflow
  exact : ∀ minor read,
    parseSingleAmount endsWord body currency = .ok (.ok (minor, read)) →
    ∃ numeral, readNumeral endsWord body currency = .ok numeral ∧
      (minor : ℚ) = numeral.amount (currencyDecimalPlaces currency)
  rejects : ∀ numeral, readNumeral endsWord body currency = .ok numeral →
    numeral.Bad (currencyDecimalPlaces currency) →
    ∃ error, parseSingleAmount endsWord body currency = .ok (.error error)

/-- The arithmetic is exact for every text, but a bad number before a Kelvin
sign is not rejected. -/
theorem amount_arithmetic_exact_iff (body : List Char) (currency : String) :
    ReadsExactly endsWord body currency ↔
      ((trimChars body).getLast? = some kelvinSign →
        ∀ numeral, readNumeral endsWord body currency = .ok numeral →
          ¬ numeral.Bad (currencyDecimalPlaces currency)) := by
  constructor
  · intro exactly kelvin numeral reads bad
    obtain ⟨error, rejected⟩ := exactly.rejects numeral reads bad
    rw [parseSingleAmount_kelvin kelvin] at rejected
    nomatch rejected
  · intro goodNumber
    by_cases kelvin : (trimChars body).getLast? = some kelvinSign
    · have panics : parseSingleAmount endsWord body currency =
          .error .slice :=
        parseSingleAmount_kelvin kelvin
      refine ⟨by simp [panics], by simp [panics], ?_⟩
      exact fun numeral reads bad =>
        absurd bad (goodNumber kelvin numeral reads)
    · obtain ⟨result, reads, exact⟩ :=
        parseSingleAmount_exact endsWord currency kelvin
      refine ⟨by simp [reads], ?_, ?_⟩
      · intro minor read same
        rw [reads] at same
        obtain ⟨⟨numeral, isNumeral, exactly⟩, _⟩ :=
          exact minor read (Except.ok.inj same)
        exact ⟨numeral, isNumeral, exactly.1⟩
      · intro numeral isNumeral bad
        cases result with
        | error error => exact ⟨error, reads⟩
        | ok amount =>
            obtain ⟨⟨other, isOther, exactly⟩, _⟩ :=
              exact amount.1 amount.2 rfl
            rw [isNumeral] at isOther
            cases isOther
            exact absurd bad exactly.not_bad

/-- Sixteen digits before a Kelvin sign. -/
theorem amount_arithmetic_misses_kelvin :
    ¬ ReadsExactly (fun _ _ => false)
      (List.replicate 16 '1' ++ [kelvinSign]) "VND" := by
  intro exactly
  obtain ⟨error, rejected⟩ := exactly.rejects
    ⟨List.replicate 16 '1', [], 1000⟩ (by decide)
    (.inr (.inr (.inl (by decide))))
  rw [parseSingleAmount_kelvin (by decide)] at rejected
  nomatch rejected

end Numerals

end Conversation

end ZaloBot
