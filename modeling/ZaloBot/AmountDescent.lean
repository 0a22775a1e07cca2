import Mathlib.Logic.Relation
import ZaloBot.AmountPanics

/-!
# The recursion of reading an amount

`parse_amount` calls itself on a part of the lowercase text.  Each call is on a
shorter text, except that the first one is on a longer text where letters that
take more bytes in lowercase stand behind a multiplier.
-/

namespace ZaloBot

namespace Conversation

open RustText

variable {endsWord : SigmaRule}

section Calls

variable {raw lower before after word : List Char} {currency hint : String}
  {entry : List Char × Int} {called : List Char × String}
  {first second : List Char → String → Checked AmountResult}

/-- `parse_amount`, with one text on which it overflows the stack. -/
def overflowing (endsWord : SigmaRule) (called : List Char × String)
    (raw : List Char) (hint : String) : Checked AmountResult :=
  if (raw, hint) = called then .error .stack
  else parseAmount endsWord raw hint

/-- `parse_amount` calls itself: it overflows the stack where the call does. -/
def Calls (endsWord : SigmaRule) (caller called : List Char × String) : Prop :=
  parseAmountWith endsWord (overflowing endsWord called) caller.1 caller.2 =
    .error .stack

/-- Behind what multipliers the loop consults the parser. -/
theorem tryMultiplier_congr (member : entry ∈ multipliers)
    (agree : ∀ before after, FirstAround lower entry.1 before after →
      Accepts (amountOfDigits before currency entry.2) →
        first after currency = second after currency) :
    tryMultiplier endsWord first lower currency entry.1 =
      tryMultiplier endsWord second lower currency entry.1 := by
  by_cases somewhere : ∃ before after, FirstAround lower entry.1 before after
  · obtain ⟨before, after, around⟩ := somewhere
    rw [tryMultiplier_of_first around, tryMultiplier_of_first around]
    split
    · rfl
    obtain ⟨single, reads⟩ := returns_number currency member around.number
    rw [reads, ok_bind, ok_bind]
    rcases single with error | ⟨value, read⟩
    · rfl
    · have number : Accepts (amountOfDigits before currency entry.2) :=
        ⟨_, (parseSingleAmount_of_multiplier member around.number).symm.trans
          reads⟩
      simp only [agree before after around number]
  · have nowhere : ∀ before after, ¬ FirstAround lower entry.1 before after :=
      fun before after around => somewhere ⟨before, after, around⟩
    rw [tryMultiplier_of_nowhere nowhere, tryMultiplier_of_nowhere nowhere]

theorem tryMultipliers_congr_of_first {table : List (List Char × Int)}
    (within : table ⊆ multipliers)
    (agree : ∀ entry ∈ table, ∀ before after,
      FirstAround lower entry.1 before after →
        Accepts (amountOfDigits before currency entry.2) →
          first after currency = second after currency) :
    tryMultipliers endsWord first lower currency table =
      tryMultipliers endsWord second lower currency table := by
  induction table with
  | nil => rfl
  | cons entry others ih =>
      rw [tryMultipliers, tryMultipliers,
        tryMultiplier_congr (within (by simp)) (agree entry (by simp)),
        ih (fun other member => within (by simp [member]))
          fun other member => agree other (by simp [member])]

/-- A text on which `parse_amount` calls itself. -/
structure IsSplit (endsWord : SigmaRule) (raw : List Char) (hint : String)
    (after : List Char) : Prop where
  nonempty : trimChars raw ≠ []
  noMinus : '-' ∉ trimChars raw
  split : ∃ entry ∈ multipliers, ∃ before,
    FirstAround (toLowercase endsWord (detectCurrency (trimChars raw) hint).2)
      entry.1 before after ∧
    Accepts (amountOfDigits before (detectCurrency (trimChars raw) hint).1
      entry.2)

theorem parseAmount_ne_stack :
    parseAmount endsWord raw hint ≠ .error .stack := by
  rcases parseAmount_cases endsWord raw hint with
    ⟨⟨result, reads⟩, _⟩ | ⟨panics, _⟩
  · simp [reads]
  · simp [panics]

/-- `parse_amount` calls itself only on what is behind a number with a
multiplier. -/
theorem isSplit_of_calls (calls : Calls endsWord (raw, hint) called) :
    IsSplit endsWord raw hint called.1 := by
  by_contra noSplit
  refine parseAmount_ne_stack
    (?_ : parseAmount endsWord raw hint = .error .stack)
  rw [parseAmount_eq, ← calls]
  unfold parseAmountWith tryParseCompound
  simp only
  split
  · rfl
  rename_i nonempty
  split
  · rfl
  rename_i noMinus
  rw [tryMultipliers_congr_of_first (List.Subset.refl _)]
  intro entry member before after around number
  rw [overflowing, if_neg]
  rintro rfl
  exact noSplit ⟨by simpa using nonempty, noMinus, entry, member, before,
    around, number⟩

end Calls

section Growth

variable {raw body lower before after : List Char} {currency hint : String}
  {mark : Char} {entry : List Char × Int} {called : List Char × String}

theorem byteLength_after_lt (member : entry ∈ multipliers)
    (first : FirstAround lower entry.1 before after) :
    byteLength after < byteLength lower := by
  obtain ⟨front, back, rfl, _, _, rfl⟩ := first.found
  obtain ⟨char, rest, isWord⟩ :=
    List.exists_cons_of_ne_nil (multiplier_nonempty entry member).1
  have positive := char.utf8Size_pos
  have inside := byteLength_le_of_inside (trimChars_inside back)
  rw [byteLength_append, byteLength_append, isWord, byteLength_cons]
  omega

theorem grownMark_facts : ∀ mark ∈ grownMarks,
    isStranger mark = true ∧ lowercaseChar mark = [mark] ∧
      mark.toNat ≠ 931 ∧ ∀ entry ∈ currencySymbols, mark ∉ entry.1 := by
  decide

/-- Letters that have grown are in no amount. -/
theorem not_mem_of_accepts (isMark : mark ∈ grownMarks)
    (accepts : Accepts (parseAmount endsWord raw hint)) : mark ∉ raw := by
  obtain ⟨stranger, writes, notSigma, noSymbol⟩ := grownMark_facts mark isMark
  have solid := (stranger_facts stranger).1
  obtain ⟨⟨minor, read⟩, accepted⟩ := accepts
  obtain ⟨parts, reads, _⟩ := exists_reads accepted
  have absent := reads.no_stranger ⟨stranger, stranger⟩ ⟨writes, writes⟩
    ⟨notSigma, notSigma⟩ noSymbol
  intro inRaw
  rcases mem_body_or_symbol solid (mem_trimChars inRaw solid) with
    inBody | ⟨entry, inTable, inSymbol, _⟩
  · exact absent.1 inBody
  · exact noSymbol entry inTable inSymbol

/-- Where letters have grown, a turn of the loop finds no amount. -/
theorem tryMultiplier_of_grown (member : entry ∈ multipliers)
    (isMark : mark ∈ grownMarks) (inLower : mark ∈ toLowercase endsWord body)
    (first : FirstAround (toLowercase endsWord body) entry.1 before after) :
    (tryMultiplier endsWord (overflowing endsWord called)
          (toLowercase endsWord body) currency entry.1 = .ok none ∨
      tryMultiplier endsWord (overflowing endsWord called)
          (toLowercase endsWord body) currency entry.1 = .error .stack) ∧
      ((after, currency) = called →
        Accepts (amountOfDigits before currency entry.2) →
        tryMultiplier endsWord (overflowing endsWord called)
          (toLowercase endsWord body) currency entry.1 = .error .stack) := by
  have facts := stranger_facts (grownMark_facts mark isMark).1
  have inAfter := mem_after (grownMark_facts mark isMark).1 member
    first.around inLower
  have notDigits : after.all isDigit = false := by
    rw [List.all_eq_false]
    exact ⟨mark, inAfter, by simp [facts.2.1]⟩
  by_cases same : (after, currency) = called
  · obtain ⟨single, reads⟩ := returns_number currency member first.number
    have number : parseSingleAmount endsWord (before ++ entry.1) currency =
        amountOfDigits before currency entry.2 :=
      parseSingleAmount_of_multiplier member first.number
    rw [reads] at number
    rw [tryMultiplier_of_first first, if_neg (by simp [notDigits]), reads,
      ok_bind, ← number]
    rcases single with error | ⟨value, read⟩
    · simp [Accepts]
    · simp [overflowing, same, error_bind]
  · have sameTail : overflowing endsWord called after currency =
        parseAmount endsWord after currency :=
      if_neg same
    refine ⟨.inl ?_, fun isCalled => absurd isCalled same⟩
    rw [tryMultiplier_eq_none_iff member first notDigits, sameTail]
    · exact fun parts => not_mem_of_accepts isMark parts.2 inAfter
    · rw [sameTail]
      exact returns_tail member first currency

theorem tryMultipliers_of_overflow {table : List (List Char × Int)}
    {parseTail : List Char → String → Checked AmountResult}
    (turns : ∀ entry ∈ table,
      tryMultiplier endsWord parseTail lower currency entry.1 = .ok none ∨
        tryMultiplier endsWord parseTail lower currency entry.1 =
          .error .stack)
    (overflows : ∃ entry ∈ table,
      tryMultiplier endsWord parseTail lower currency entry.1 =
        .error .stack) :
    tryMultipliers endsWord parseTail lower currency table =
      .error .stack := by
  induction table with
  | nil => simp at overflows
  | cons entry others ih =>
      rw [tryMultipliers]
      rcases turns entry (by simp) with passes | stops
      · rw [passes, ok_bind]
        refine ih (fun other member => turns other (by simp [member])) ?_
        obtain ⟨other, member, stops⟩ := overflows
        rcases List.mem_cons.mp member with rfl | inOthers
        · simp [passes] at stops
        · exact ⟨other, inOthers, stops⟩
      · rw [stops, error_bind]

/-- Where letters have grown, `parse_amount` calls itself on what is behind
any number with a multiplier. -/
theorem calls_of_split (split : IsSplit endsWord raw hint after)
    (isMark : mark ∈ grownMarks)
    (inLower : mark ∈ toLowercase endsWord
      (detectCurrency (trimChars raw) hint).2) :
    Calls endsWord (raw, hint)
      (after, (detectCurrency (trimChars raw) hint).1) := by
  obtain ⟨entry, member, before, first, number⟩ := split.split
  have stops : tryParseCompound endsWord
      (overflowing endsWord (after, (detectCurrency (trimChars raw) hint).1))
      (detectCurrency (trimChars raw) hint).2
      (detectCurrency (trimChars raw) hint).1 = .error .stack := by
    refine tryMultipliers_of_overflow (fun other inTable => ?_)
      ⟨entry, member, ?_⟩
    · by_cases somewhere : ∃ before after, FirstAround (toLowercase endsWord
          (detectCurrency (trimChars raw) hint).2) other.1 before after
      · obtain ⟨otherBefore, otherAfter, otherFirst⟩ := somewhere
        exact (tryMultiplier_of_grown inTable isMark inLower otherFirst).1
      · exact .inl (tryMultiplier_of_nowhere fun otherBefore otherAfter
          otherFirst => somewhere ⟨otherBefore, otherAfter, otherFirst⟩)
    · exact (tryMultiplier_of_grown member isMark inLower first).2 rfl number
  unfold Calls parseAmountWith
  simp only
  rw [if_neg (by simpa using split.nonempty), if_neg split.noMinus, stops,
    error_bind]

/-- What is behind a multiplier is at least as long as the text. -/
def Outgrows (endsWord : SigmaRule) (raw : List Char) (hint : String) : Prop :=
  ∃ after, IsSplit endsWord raw hint after ∧
    byteLength raw ≤ byteLength after

/-- Every call below a call of `parse_amount` is on a shorter text. -/
def Descends (endsWord : SigmaRule) (raw : List Char) (hint : String) : Prop :=
  ∀ caller called, Relation.ReflTransGen (Calls endsWord) (raw, hint) caller →
    Calls endsWord caller called →
    byteLength called.1 < byteLength caller.1

theorem byteLength_searched_le (raw : List Char) (hint : String)
    (notGrowing : ∀ char ∈ raw, isGrowing char = false) :
    byteLength (toLowercase endsWord (detectCurrency (trimChars raw) hint).2) ≤
      byteLength raw := by
  have inside := (detectCurrency_inside (trimChars raw) hint).trans
    (trimChars_inside raw)
  exact ((lowered_toLowercase endsWord _).byteLength_le fun char member =>
    notGrowing char (inside.subset member)).trans
      (byteLength_le_of_inside inside)

theorem IsSplit.lt_of_not_growing (split : IsSplit endsWord raw hint after)
    (notGrowing : ∀ char ∈ raw, isGrowing char = false) :
    byteLength after < byteLength raw := by
  obtain ⟨entry, member, before, first, _⟩ := split.split
  exact (byteLength_after_lt member first).trans_le
    (byteLength_searched_le raw hint notGrowing)

theorem IsSplit.not_growing (split : IsSplit endsWord raw hint after) :
    ∀ char ∈ after, isGrowing char = false := by
  obtain ⟨entry, member, before, first, _⟩ := split.split
  exact fun char inAfter => (lowered_toLowercase endsWord _).not_growing char
    ((first.isTail member).1.subset inAfter)

/-- The recursion descends, except from texts that their parts outgrow. -/
theorem descends_iff (raw : List Char) (hint : String) :
    Descends endsWord raw hint ↔ ¬ Outgrows endsWord raw hint := by
  constructor
  · rintro descends ⟨after, split, longer⟩
    by_cases growing : ∃ char ∈ (detectCurrency (trimChars raw) hint).2,
        isGrowing char = true
    · obtain ⟨char, inBody, grows⟩ := growing
      obtain ⟨mark, isMark, inLower⟩ :=
        (lowered_toLowercase endsWord _).exists_grown inBody grows
      have shorter := descends (raw, hint) _ .refl
        (calls_of_split split isMark inLower)
      simp only at shorter
      omega
    · obtain ⟨entry, member, before, first, _⟩ := split.split
      have inside := (detectCurrency_inside (trimChars raw) hint).trans
        (trimChars_inside raw)
      have short := (lowered_toLowercase endsWord
        (detectCurrency (trimChars raw) hint).2).byteLength_le
          fun char inBody => by
            simpa using fun grows => growing ⟨char, inBody, grows⟩
      have shorter := byteLength_after_lt member first
      have shortest := byteLength_le_of_inside inside
      omega
  · intro notOutgrown caller called reached calls
    have split := isSplit_of_calls calls
    rcases reached.cases_tail with same | ⟨earlier, _, calledIt⟩
    · cases same
      by_contra longer
      exact notOutgrown ⟨called.1, split, Nat.le_of_not_lt longer⟩
    · exact split.lt_of_not_growing (isSplit_of_calls calledIt).not_growing

end Growth

end Conversation

end ZaloBot
