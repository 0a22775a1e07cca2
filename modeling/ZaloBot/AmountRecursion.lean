import ZaloBot.CompoundAmounts

/-!
# The recursion of the amount parser

What follows a multiplier is shorter than the lowercase text it is cut from, and
only one letter has two characters in lowercase, none of which is that letter.
So the bound on the depth of the recursion is never reached, and the parser
satisfies its own equation.
-/

namespace ZaloBot

namespace Conversation

open RustText

variable {endsWord : SigmaRule}

section Tails

variable {lower raw : List Char} {currency hint : String}
  {first second : List Char → String → Checked AmountResult}

/-- A text that may be what follows a multiplier. -/
def IsTail (lower tail : List Char) : Prop :=
  tail <:+: lower ∧ tail.length < lower.length

/-- What is left of a text without the symbol of its currency. -/
theorem stripSymbol_eq_some {text body : List Char}
    {entry : List Char × String}
    (stripped : stripSymbol text entry = some (currency, body)) :
    currency = entry.2 ∧ ∃ rest, body = trimChars rest ∧
      (text = entry.1 ++ rest ∨ text = rest ++ entry.1) := by
  unfold stripSymbol at stripped
  split at stripped
  · rename_i leads
    obtain ⟨rest, rfl⟩ := List.isPrefixOf_iff_prefix.mp leads
    cases stripped
    exact ⟨rfl, rest, by rw [List.drop_left], .inl rfl⟩
  · split at stripped
    · rename_i ends
      obtain ⟨rest, rfl⟩ := List.isSuffixOf_iff_suffix.mp ends
      cases stripped
      exact ⟨rfl, rest, by simp, .inr rfl⟩
    · nomatch stripped

/-- The currency of a text is that of the symbol at one of its ends, or the
hint. -/
theorem detectCurrency_cases (text : List Char) (hint : String) :
    (∃ entry ∈ currencySymbols,
      stripSymbol text entry = some (detectCurrency text hint)) ∨
    (∀ entry ∈ currencySymbols, stripSymbol text entry = none) ∧
      detectCurrency text hint = (hintCurrency hint, text) := by
  unfold detectCurrency
  cases found : currencySymbols.findSome? (stripSymbol text) with
  | none =>
      exact .inr ⟨fun entry member =>
        List.findSome?_eq_none_iff.mp found entry member, rfl⟩
  | some detected =>
      obtain ⟨entry, member, isDetected⟩ :=
        List.exists_of_findSome?_eq_some found
      exact .inl ⟨entry, member, isDetected⟩

theorem detectCurrency_inside (text : List Char) (hint : String) :
    (detectCurrency text hint).2 <:+: text := by
  rcases detectCurrency_cases text hint with ⟨entry, _, stripped⟩ | ⟨_, same⟩
  · generalize detectCurrency text hint = detected at stripped
    obtain ⟨currency, body⟩ := detected
    obtain ⟨_, rest, isBody, isText⟩ := stripSymbol_eq_some stripped
    rw [isBody]
    refine (trimChars_inside rest).trans ?_
    rcases isText with isText | isText
    · rw [isText]
      exact (List.suffix_append _ _).isInfix
    · rw [isText]
      exact (List.prefix_append _ _).isInfix
  · exact same ▸ List.infix_refl text

/-- A multiplier in a text, with what is before and behind it. -/
theorem find_slices {word : List Char} {offset : Nat}
    (found : find word lower = some offset) :
    ∃ front back, lower = front ++ word ++ back ∧
      byteLength front = offset ∧ sliceTo lower offset = .ok front ∧
      sliceFrom lower (offset + byteLength word) = .ok back := by
  obtain ⟨front, back, rfl, isOffset⟩ := find_eq_some found
  refine ⟨front, back, rfl, isOffset, ?_, ?_⟩
  · rw [← isOffset, List.append_assoc, sliceTo_append]
  · rw [← isOffset, ← byteLength_append, sliceFrom_append]

/-- What is behind a multiplier is a tail. -/
theorem isTail_of_split {front word back : List Char}
    (nonempty : word ≠ []) :
    IsTail (front ++ word ++ back) (trimChars back) := by
  refine ⟨(trimChars_inside back).trans (List.suffix_append _ _).isInfix, ?_⟩
  have short := (trimChars_inside back).length_le
  have long := List.length_pos_iff.mpr nonempty
  simp only [List.length_append]
  omega

/-- The loop over the multipliers depends only on what the parser does with
tails. -/
theorem tryMultipliers_congr
    (agree : ∀ tail, IsTail lower tail →
      first tail currency = second tail currency)
    {table : List (List Char × Int)} (within : table ⊆ multipliers) :
    tryMultipliers endsWord first lower currency table =
      tryMultipliers endsWord second lower currency table := by
  induction table with
  | nil => rfl
  | cons entry others ih =>
      have wordNonempty :=
        (multiplier_nonempty entry (within (by simp))).1
      have turn : tryMultiplier endsWord first lower currency entry.1 =
          tryMultiplier endsWord second lower currency entry.1 := by
        unfold tryMultiplier
        split
        · rfl
        · rfl
        · rename_i found
          obtain ⟨front, back, rfl, _, _, sliceBack⟩ := find_slices found
          simp only [sliceBack, ok_bind, agree _ (isTail_of_split wordNonempty)]
      rw [tryMultipliers, tryMultipliers, turn,
        ih fun other member => within (List.mem_cons_of_mem _ member)]

theorem parseAmountWith_congr
    (agree : ∀ body tail, body <:+: raw →
      IsTail (toLowercase endsWord body) tail → ∀ currency,
      first tail currency = second tail currency) :
    parseAmountWith endsWord first raw hint =
      parseAmountWith endsWord second raw hint := by
  unfold parseAmountWith tryParseCompound
  simp only
  split
  · rfl
  · split
    · rfl
    · have inside := (detectCurrency_inside (trimChars raw) hint).trans
        (trimChars_inside raw)
      rw [tryMultipliers_congr
        (fun tail isTail => agree _ tail inside isTail _) (List.Subset.refl _)]

/-- For a text of letters with one lowercase character each, a bound above its
length is never reached. -/
theorem parseAmountWithin_stable (endsWord : SigmaRule) (depth extra : Nat) (raw : List Char)
    (single : ∀ char ∈ raw, char.toNat ≠ 304) (bounded : raw.length < depth)
    (hint : String) :
    parseAmountWithin endsWord (depth + extra) raw hint =
      parseAmountWithin endsWord depth raw hint := by
  induction depth generalizing raw hint with
  | zero => omega
  | succ depth ih =>
      rw [Nat.succ_add, parseAmountWithin, parseAmountWithin]
      apply parseAmountWith_congr
      intro body tail inside isTail currency
      have lowers := lowered_toLowercase endsWord body
      have bodyLength := inside.length_le
      have lowerLength := lowers.length_eq fun char member =>
        single char (inside.subset member)
      have tailLength := isTail.2
      exact ih tail
        (fun char member => lowers.single (isTail.1.subset member))
        (by omega) currency

/-- `parse_amount` satisfies its own equation: the bound on its recursion is
never reached. -/
theorem parseAmount_eq (raw : List Char) (hint : String) :
    parseAmount endsWord raw hint =
      parseAmountWith endsWord (parseAmount endsWord) raw hint := by
  rw [parseAmount, parseAmountWithin]
  apply parseAmountWith_congr
  intro body tail inside isTail currency
  have lowers := lowered_toLowercase endsWord body
  have single : ∀ char ∈ tail, char.toNat ≠ 304 :=
    fun char member => lowers.single (isTail.1.subset member)
  have bodyLength := inside.length_le
  have lowerLength := lowers.length_le
  have tailLength := isTail.2
  have wide := parseAmountWithin_stable endsWord
    (tail.length + 1) (2 * raw.length - (tail.length + 1)) tail single
    (by omega) currency
  have narrow := parseAmountWithin_stable endsWord
    (tail.length + 1) tail.length tail single (by omega) currency
  rw [show tail.length + 1 + (2 * raw.length - (tail.length + 1)) =
    2 * raw.length by omega] at wide
  rw [show tail.length + 1 + tail.length = 2 * tail.length + 1 by omega]
    at narrow
  rw [wide, parseAmount, narrow]

/-- The length that the recursion decreases: of the lowercase text in which it
looks for multipliers. -/
def searchedLength (endsWord : SigmaRule) (raw : List Char)
    (hint : String) : Nat :=
  (toLowercase endsWord (detectCurrency (trimChars raw) hint).2).length

theorem searchedLength_lt {body tail : List Char}
    (isTail : IsTail (toLowercase endsWord body) tail) (hint : String) :
    searchedLength endsWord tail hint <
      (toLowercase endsWord body).length := by
  have inside := (detectCurrency_inside (trimChars tail) hint).trans
    (trimChars_inside tail)
  have lowers := lowered_toLowercase endsWord body
  have searched := (lowered_toLowercase endsWord
    (detectCurrency (trimChars tail) hint).2).length_eq fun char member =>
      lowers.single (isTail.1.subset (inside.subset member))
  have short := inside.length_le
  have shorter := isTail.2
  rw [searchedLength, searched]
  omega

end Tails

end Conversation

end ZaloBot
