import Mathlib.Tactic.NormNum
import ZaloBot.AmountParsing

/-!
# The arithmetic of amounts

What the branches of `parse_single_amount` compute, without the checks: every
guard stands before the operation that it protects, so that no operation leaves
the range of `i64`.
-/

namespace ZaloBot

namespace Conversation

open RustText

section Digits

variable {digits : List Char}

/-- The number that digits denote. -/
def numberOf (digits : List Char) : Nat :=
  Nat.ofDigitChars 10 digits 0

theorem numberOf_append (front back : List Char) :
    numberOf (front ++ back) =
      numberOf front * 10 ^ back.length + numberOf back := by
  rw [numberOf, Nat.ofDigitChars_append,
    Nat.ofDigitChars_eq_ofDigitChars_zero, Nat.mul_comm]
  rfl

theorem isDigit_iff {char : Char} :
    isDigit char = true ↔ 48 ≤ char.toNat ∧ char.toNat ≤ 57 := by
  simp only [isDigit, Bool.and_eq_true, decide_eq_true_eq, Char.le_def,
    UInt32.le_iff_toNat_le]
  exact Iff.rfl

theorem numberOf_lt (all : ∀ char ∈ digits, isDigit char = true) :
    numberOf digits < 10 ^ digits.length := by
  induction digits with
  | nil => simp [numberOf]
  | cons digit rest ih =>
      have rested := ih fun char member => all char (by simp [member])
      have bounds := isDigit_iff.mp (all digit (by simp))
      have first : numberOf [digit] ≤ 9 := by
        simp only [numberOf, Nat.ofDigitChars_cons, Nat.ofDigitChars_nil]
        have zero : '0'.toNat = 48 := rfl
        omega
      rw [← List.singleton_append, numberOf_append, List.length_append,
        List.length_singleton, Nat.pow_add, Nat.pow_one]
      calc numberOf [digit] * 10 ^ rest.length + numberOf rest
          < numberOf [digit] * 10 ^ rest.length + 10 ^ rest.length := by omega
        _ = (numberOf [digit] + 1) * 10 ^ rest.length :=
            (Nat.succ_mul _ _).symm
        _ ≤ 10 * 10 ^ rest.length := Nat.mul_le_mul_right _ (by omega)

/-- Fifteen digits are far below the greatest `i64`. -/
theorem numberOf_lt_of_length (all : ∀ char ∈ digits, isDigit char = true)
    (short : digits.length ≤ 15) : numberOf digits < 10 ^ 15 :=
  Nat.lt_of_lt_of_le (numberOf_lt all)
    (Nat.pow_le_pow_right (by decide) short)

theorem isDigit_of_mem_stripSeparators {text : List Char} :
    ∀ char ∈ stripSeparators text, isDigit char = true :=
  fun _ member => (List.mem_filter.mp member).2

theorem stripSeparators_of_digits (all : ∀ char ∈ digits, isDigit char = true) :
    stripSeparators digits = digits :=
  List.filter_eq_self.mpr all

theorem parseDigits_eq_ok (nonempty : digits ≠ [])
    (all : ∀ char ∈ digits, isDigit char = true)
    (short : digits.length ≤ 15) :
    parseDigits digits = .ok (numberOf digits : Int) := by
  have bounded := numberOf_lt_of_length all short
  unfold numberOf at bounded ⊢
  have small : ¬ maxI64 < (Nat.ofDigitChars 10 digits 0 : Int) := by
    unfold maxI64
    omega
  simp [parseDigits, nonempty, small]

end Digits

section Range

variable {value factor : Int}

theorem asI64_of_le (nonnegative : 0 ≤ value) (bounded : value ≤ maxI64) :
    asI64 value = .ok value := by
  rw [asI64, if_pos]
  unfold maxI64 at *
  omega

theorem asI64_eq_ok {result : Int} (fits : asI64 value = .ok result) :
    value = result := by
  unfold asI64 at fits
  split at fits
  · exact Except.ok.inj fits
  · nomatch fits

/-- The guard of a product. -/
theorem guard_iff (positive : 0 < factor) (bounded : value ≤ maxI64) :
    1 < factor ∧ maxI64 / factor < value ↔ maxI64 < value * factor := by
  constructor
  · intro ⟨_, guarded⟩
    exact (Int.ediv_lt_iff_lt_mul positive).mp guarded
  · intro large
    have above := (Int.ediv_lt_iff_lt_mul positive).mpr large
    refine ⟨?_, above⟩
    by_contra small
    have one : factor = 1 := by omega
    subst one
    omega

end Range

section Branches

variable {digits : List Char} {currency : String} {factor : Int}

theorem currencyDecimalPlaces_cases (currency : String) :
    currencyDecimalPlaces currency = 0 ∨
      currencyDecimalPlaces currency = 2 := by
  unfold currencyDecimalPlaces
  split <;> simp

/-- What `finish_amount` computes. -/
theorem finishAmount_eq (all : ∀ char ∈ digits, isDigit char = true)
    (positive : 0 < factor) :
    finishAmount digits currency factor =
      if digits = [] then
        reject .noDigits
      else if 15 < digits.length then
        reject .tooLarge
      else if maxI64 <
          numberOf digits * 10 ^ currencyDecimalPlaces currency * factor then
        reject .tooLarge
      else
        .ok (.ok
          (numberOf digits * 10 ^ currencyDecimalPlaces currency * factor,
            upperCurrency currency)) := by
  unfold finishAmount
  by_cases empty : digits = []
  · simp [empty]
  · by_cases long : 15 < digits.length
    · simp [empty, long]
    · have bounded := numberOf_lt_of_length all (by omega)
      have nonnegative : (0 : Int) ≤ numberOf digits := Int.natCast_nonneg _
      rw [if_neg (by simpa using empty), if_neg long, if_neg empty,
        if_neg long, parseDigits_eq_ok empty all (by omega)]
      generalize numberOf digits = number at *
      have scaled : ∀ value : Int, 0 ≤ value → value ≤ maxI64 →
          (if 1 < factor ∧ maxI64 / factor < value then
            reject .tooLarge
          else do
            let product ← asI64 (value * factor)
            .ok (.ok (product, upperCurrency currency)) :
              Checked AmountResult) =
          if maxI64 < value * factor then reject .tooLarge
          else .ok (.ok (value * factor, upperCurrency currency)) := by
        intro value nonnegative small
        rw [if_congr (guard_iff positive small) rfl rfl]
        split
        · rfl
        · rw [asI64_of_le (Int.mul_nonneg nonnegative (by omega)) (by omega)]
          rfl
      rcases currencyDecimalPlaces_cases currency with places | places
      · have small : (number : Int) ≤ maxI64 := by
          unfold maxI64
          omega
        simpa only [places, pow_zero, mul_one, OfNat.zero_ne_ofNat, false_and,
          if_false, ok_bind] using scaled number nonnegative small
      · have small : (number : Int) * 100 ≤ maxI64 := by
          unfold maxI64
          omega
        have unguarded : ¬ maxI64 / 100 < (number : Int) := by
          unfold maxI64
          omega
        simpa [places, unguarded, asI64_of_le (by omega) small, ok_bind]
          using
          scaled (number * 100) (by omega) small

end Branches

section Decimals

variable {front fraction : List Char} {separator : Char} {currency : String}
  {factor : Int}

/-- A character of an amount without its multiplier. -/
def IsKept (char : Char) : Prop :=
  isDigit char = true ∨ isSeparator char = true

theorem IsKept.ascii {char : Char} (kept : IsKept char) :
    char.toNat < 128 := by
  rcases kept with digit | separator
  · have bounds := isDigit_iff.mp digit
    omega
  · simp only [isSeparator, Bool.or_eq_true, beq_iff_eq] at separator
    rcases separator with rfl | rfl <;> decide

theorem byteLength_of_kept {text : List Char}
    (kept : ∀ char ∈ text, IsKept char) : byteLength text = text.length :=
  byteLength_of_ascii fun char member => (kept char member).ascii

theorem sliceTo_kept (kept : ∀ char ∈ front, IsKept char) :
    sliceTo (front ++ separator :: fraction) front.length = .ok front := by
  rw [← byteLength_of_kept kept, sliceTo_append]

theorem sliceFrom_kept (kept : ∀ char ∈ front, IsKept char)
    (separates : isSeparator separator = true) :
    sliceFrom (front ++ separator :: fraction) (front.length + 1) =
      .ok fraction := by
  have whole : ∀ char ∈ front ++ [separator], IsKept char := by
    intro char member
    rcases List.mem_append.mp member with inFront | last
    · exact kept char inFront
    · cases List.mem_singleton.mp last
      exact .inr separates
  have length : byteLength (front ++ [separator]) = front.length + 1 := by
    rw [byteLength_of_kept whole]
    simp
  rw [← length, show front ++ separator :: fraction =
    (front ++ [separator]) ++ fraction by simp, sliceFrom_append]

/-- What is computed of an amount with a decimal separator in a currency
without minor units. -/
theorem decimalAmount_eq_of_whole (kept : ∀ char ∈ front, IsKept char)
    (separates : isSeparator separator = true)
    (fractionDigits : ∀ char ∈ fraction, isDigit char = true)
    (nonempty : fraction ≠ []) (positive : 0 < factor)
    (places : currencyDecimalPlaces currency = 0) :
    decimalAmount (front ++ separator :: fraction) front.length currency
        factor =
      let digits := stripSeparators front ++ fraction
      if 4 < fraction.length then
        reject .tooLarge
      else if 15 < digits.length then
        reject .tooLarge
      else if maxI64 < numberOf digits * factor then
        reject .tooLarge
      else if (numberOf digits * factor) % 10 ^ fraction.length ≠ 0 then
        reject .notWholeMinorUnit
      else
        .ok (.ok
          (numberOf digits * factor / 10 ^ fraction.length, currency)) := by
  have digitsAll : ∀ char ∈ stripSeparators front ++ fraction,
      isDigit char = true := by
    intro char member
    rcases List.mem_append.mp member with inFront | inFraction
    · exact isDigit_of_mem_stripSeparators char inFront
    · exact fractionDigits char inFraction
  simp only [decimalAmount, sliceTo_kept kept,
    sliceFrom_kept kept separates, ok_bind,
    stripSeparators_of_digits fractionDigits, List.length_append]
  split
  · rfl
  · rename_i shortFraction
    split
    · rfl
    · rename_i short
      rw [← List.length_append] at short
      have bounded := numberOf_lt_of_length digitsAll (by omega)
      rw [parseDigits_eq_ok (by simp [nonempty]) digitsAll (by omega)]
      have nonnegative :
          (0 : Int) ≤ numberOf (stripSeparators front ++ fraction) :=
        Int.natCast_nonneg _
      generalize numberOf (stripSeparators front ++ fraction) = number at *
      have small : (number : Int) ≤ maxI64 := by
        unfold maxI64
        omega
      have scale : asI64 (10 ^ fraction.length) =
          .ok (10 ^ fraction.length) := by
        refine asI64_of_le (by positivity) ?_
        calc (10 : Int) ^ fraction.length ≤ 10 ^ 4 :=
              pow_le_pow_right₀ (by decide) (by omega)
          _ ≤ maxI64 := by decide
      simp only [scale, ok_bind]
      rw [if_congr (guard_iff positive small) rfl rfl]
      split
      · rfl
      · have product := Int.mul_nonneg nonnegative (by omega : 0 ≤ factor)
        rw [asI64_of_le product (by omega), ok_bind,
          Int.tmod_eq_emod_of_nonneg product,
          Int.tdiv_eq_ediv_of_nonneg product]

/-- What is computed of an amount with a decimal separator in a currency with
hundredths. -/
theorem decimalAmount_eq_of_hundredths (kept : ∀ char ∈ front, IsKept char)
    (separates : isSeparator separator = true)
    (fractionDigits : ∀ char ∈ fraction, isDigit char = true)
    (two : fraction.length = 2) (positive : 0 < factor)
    (places : currencyDecimalPlaces currency = 2) :
    decimalAmount (front ++ separator :: fraction) front.length currency
        factor =
      let digits := stripSeparators front ++ fraction
      if 15 < digits.length then
        reject .tooLarge
      else if maxI64 < numberOf digits * factor then
        reject .tooLarge
      else
        .ok (.ok (numberOf digits * factor, currency)) := by
  have digitsAll : ∀ char ∈ stripSeparators front ++ fraction,
      isDigit char = true := by
    intro char member
    rcases List.mem_append.mp member with inFront | inFraction
    · exact isDigit_of_mem_stripSeparators char inFront
    · exact fractionDigits char inFraction
  have nonempty : stripSeparators front ++ fraction ≠ [] := by
    intro empty
    rw [List.append_eq_nil_iff] at empty
    simp [empty.2] at two
  simp only [decimalAmount, sliceTo_kept kept,
    sliceFrom_kept kept separates, ok_bind,
    stripSeparators_of_digits fractionDigits, List.length_append, two]
  rw [if_neg (by decide)]
  split
  · rfl
  · rename_i short
    rw [← two, ← List.length_append] at short
    have bounded := numberOf_lt_of_length digitsAll (by omega)
    rw [parseDigits_eq_ok nonempty digitsAll (by omega)]
    have nonnegative :
        (0 : Int) ≤ numberOf (stripSeparators front ++ fraction) :=
      Int.natCast_nonneg _
    generalize numberOf (stripSeparators front ++ fraction) = number at *
    have small : (number : Int) ≤ maxI64 := by
      unfold maxI64
      omega
    simp only [places, OfNat.ofNat_ne_zero, if_false, lt_irrefl,
      Nat.sub_self, addPlaces, ok_bind]
    rw [if_congr (guard_iff positive small) rfl rfl]
    split
    · rfl
    · rw [asI64_of_le (Int.mul_nonneg nonnegative (by omega)) (by omega),
        ok_bind]

end Decimals

section Separators

variable {digitsOnly front fraction : List Char} {separator : Char}
  {currency : String} {factor : Int}

/-- A text around its last separator. -/
def splitAtLast : List Char → Option (List Char × Char × List Char)
  | [] => none
  | char :: rest =>
      match splitAtLast rest with
      | some (front, separator, fraction) =>
          some (char :: front, separator, fraction)
      | none => if isSeparator char then some ([], char, rest) else none

theorem splitAtLast_eq_none {text : List Char} :
    splitAtLast text = none ↔ ∀ char ∈ text, isSeparator char = false := by
  induction text with
  | nil => simp [splitAtLast]
  | cons char rest ih =>
      rw [splitAtLast]
      cases inRest : splitAtLast rest with
      | some parts =>
          have found : ¬ ∀ char ∈ rest, isSeparator char = false := by
            rw [← ih, inRest]
            simp
          simp only [reduceCtorEq, false_iff]
          exact fun none => found fun char member =>
            none char (List.mem_cons_of_mem _ member)
      | none =>
          have absent := ih.mp inRest
          cases separates : isSeparator char with
          | false => simpa [separates] using absent
          | true => simp [separates]

theorem splitAtLast_eq_some {text : List Char}
    (split : splitAtLast text = some (front, separator, fraction)) :
    text = front ++ separator :: fraction ∧ isSeparator separator = true ∧
      ∀ char ∈ fraction, isSeparator char = false := by
  induction text generalizing front with
  | nil => nomatch split
  | cons char rest ih =>
      rw [splitAtLast] at split
      split at split
      · rename_i inner last after inRest
        cases split
        obtain ⟨rfl, separates, clean⟩ := ih inRest
        exact ⟨rfl, separates, clean⟩
      · rename_i inRest
        split at split
        · rename_i separates
          cases split
          exact ⟨rfl, separates, splitAtLast_eq_none.mp inRest⟩
        · nomatch split

theorem splitAtLast_append (separates : isSeparator separator = true)
    (clean : ∀ char ∈ fraction, isSeparator char = false) :
    splitAtLast (front ++ separator :: fraction) =
      some (front, separator, fraction) := by
  induction front with
  | nil =>
      rw [List.nil_append, splitAtLast, splitAtLast_eq_none.mpr clean]
      simp [separates]
  | cons char rest ih =>
      rw [List.cons_append, splitAtLast, ih]

theorem lastSeparator_eq (text : List Char) :
    lastSeparator text = (splitAtLast text).map (·.1.length) := by
  suffices ∀ start, ((text.zipIdx start).filter
      fun entry => isSeparator entry.1).getLast?.map (·.2) =
        (splitAtLast text).map (start + ·.1.length) by
    rw [lastSeparator, this 0]
    simp only [Nat.zero_add]
  induction text with
  | nil => exact fun _ => rfl
  | cons char rest ih =>
      intro start
      have rested := ih (start + 1)
      rw [List.zipIdx_cons, splitAtLast]
      cases inRest : splitAtLast rest with
      | some parts =>
          rw [inRest] at rested
          obtain ⟨last, isLast, isIndex⟩ := Option.map_eq_some_iff.mp rested
          rw [List.filter_cons]
          split
          · simp [List.getLast?_cons, isLast, isIndex]
            omega
          · simp [isLast, isIndex]
            omega
      | none =>
          rw [inRest] at rested
          have empty := Option.map_eq_none_iff.mp rested
          rw [List.getLast?_eq_none_iff] at empty
          cases separates : isSeparator char <;>
            simp [separates, empty]

/-- Whether the last separator is read as a decimal point. -/
def isDecimalPoint (places : Nat) (separator : Char)
    (fraction : List Char) : Bool :=
  if places = 0 then
    !fraction.isEmpty && fraction.length != 3
  else
    separator = '.' && fraction.length = 2

/-- The parts of an amount around its decimal point. -/
def decimalSplit (digitsOnly : List Char) (currency : String)
    (factor : Int) : Option (List Char × Char × List Char) :=
  if currencyDecimalPlaces currency = 0 ∧ factor = 1 then
    none
  else
    (splitAtLast digitsOnly).filter fun parts =>
      isDecimalPoint (currencyDecimalPlaces currency) parts.2.1 parts.2.2

theorem decimalAt_eq (kept : ∀ char ∈ digitsOnly, IsKept char) :
    decimalAt digitsOnly currency =
      .ok (((splitAtLast digitsOnly).filter fun parts =>
        isDecimalPoint (currencyDecimalPlaces currency) parts.2.1
          parts.2.2).map (·.1.length)) := by
  rw [decimalAt, lastSeparator_eq]
  cases split : splitAtLast digitsOnly with
  | none => rfl
  | some parts =>
      obtain ⟨front, separator, fraction⟩ := parts
      obtain ⟨rfl, separates, clean⟩ := splitAtLast_eq_some split
      have keptFront : ∀ char ∈ front, IsKept char :=
        fun char member => kept char (by simp [member])
      have digits : ∀ char ∈ fraction, isDigit char = true := by
        intro char member
        rcases kept char (by simp [member]) with digit | separates
        · exact digit
        · simp [clean char member] at separates
      have stripped := stripSeparators_of_digits digits
      simp only [Option.map_some, List.getElem?_append_right (le_refl _),
        Nat.sub_self, List.getElem?_cons_zero, ok_bind,
        sliceFrom_kept keptFront separates, stripped]
      unfold isDecimalPoint
      rcases currencyDecimalPlaces_cases currency with places | places
      · by_cases three : fraction.length = 3 <;>
          by_cases empty : fraction = [] <;>
            simp [places, three, empty, Option.filter]
      · by_cases point : separator = '.' <;>
          by_cases two : fraction.length = 2 <;>
            simp [places, point, two, Option.filter]

/-- An amount without a decimal point. -/
theorem amountOfDigits_of_whole (kept : ∀ char ∈ digitsOnly, IsKept char)
    (whole : decimalSplit digitsOnly currency factor = none) :
    amountOfDigits digitsOnly currency factor =
      finishAmount (stripSeparators digitsOnly) currency factor := by
  unfold amountOfDigits
  split
  · rename_i empty
    rw [List.isEmpty_iff.mp empty]
    rfl
  · split
    · rfl
    · rename_i notPlain
      rw [decimalSplit, if_neg notPlain] at whole
      rw [decimalAt_eq kept, whole]
      rfl

/-- An amount with a decimal point. -/
theorem amountOfDigits_of_decimal (kept : ∀ char ∈ digitsOnly, IsKept char)
    (decimal : decimalSplit digitsOnly currency factor =
      some (front, separator, fraction)) :
    amountOfDigits digitsOnly currency factor =
      decimalAmount digitsOnly front.length currency factor := by
  unfold decimalSplit at decimal
  split at decimal
  · nomatch decimal
  · rename_i notPlain
    unfold amountOfDigits
    rw [if_neg, if_neg notPlain, decimalAt_eq kept, decimal]
    · rfl
    · intro empty
      rw [List.isEmpty_iff.mp empty] at decimal
      nomatch decimal

end Separators

end Conversation

end ZaloBot
