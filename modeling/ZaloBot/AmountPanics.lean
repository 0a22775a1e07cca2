import ZaloBot.AmountCurrencies

/-!
# Where reading an amount ends

`parse_amount` slices a text at offsets of its lowercase, and it calls itself on
a part of this lowercase.  It panics at a Kelvin sign that ends the text, and
letters that are longer in lowercase let this part be longer than the text.
-/

namespace ZaloBot

namespace Conversation

open RustText

variable {endsWord : SigmaRule}

/-- A computation that ends with an amount. -/
def Accepts (computation : Checked AmountResult) : Prop :=
  ∃ amount, computation = .ok (.ok amount)

section Turns

variable {lower before after word : List Char} {currency : String}
  {entry : List Char × Int}
  {parseTail : List Char → String → Checked AmountResult}

/-- The first occurrence of a multiplier, between a number and something
else. -/
structure FirstAround (lower word before after : List Char) : Prop where
  found : ∃ front back, lower = front ++ word ++ back ∧
    find word lower = some (byteLength front) ∧
    before = trimChars front ∧ after = trimChars back
  beforeNonempty : before ≠ []
  afterNonempty : after ≠ []
  number : ∀ char ∈ before, IsKept char

theorem FirstAround.around (first : FirstAround lower word before after) :
    Around lower word before after := by
  obtain ⟨front, back, isLower, _, isBefore, isAfter⟩ := first.found
  exact ⟨⟨front, back, isLower, isBefore, isAfter⟩, first.afterNonempty,
    first.beforeNonempty, first.number⟩

/-- A turn of the loop without its multiplier in place passes. -/
theorem tryMultiplier_of_nowhere
    (nowhere : ∀ before after, ¬ FirstAround lower word before after) :
    tryMultiplier endsWord parseTail lower currency word = .ok none := by
  unfold tryMultiplier
  split
  · rfl
  · rfl
  rename_i offset _ found
  obtain ⟨front, back, isLower, isOffset, sliceFront, sliceBack⟩ :=
    find_slices found
  simp only [sliceFront, sliceBack, ok_bind]
  split
  · rfl
  rename_i shaped
  simp only [Bool.or_eq_true, Bool.not_eq_true', not_or, Bool.not_eq_false,
    List.isEmpty_iff] at shaped
  obtain ⟨⟨beforeNonempty, afterNonempty⟩, number⟩ := shaped
  refine absurd ⟨⟨front, back, isLower, ?_, rfl, rfl⟩, beforeNonempty,
    afterNonempty, fun char member => ?_⟩
    (nowhere (trimChars front) (trimChars back))
  · rw [isOffset, found]
  · simpa [IsKept] using List.all_eq_true.mp number char member

/-- A turn of the loop with its multiplier in place. -/
theorem tryMultiplier_of_first (first : FirstAround lower word before after) :
    tryMultiplier endsWord parseTail lower currency word =
      (if after.all isDigit then
        (parseSingleAmount endsWord (before ++ '.' :: after ++ word)
          currency).map some
      else do
        match ← parseSingleAmount endsWord (before ++ word) currency with
        | .error _ => .ok none
        | .ok (valueBefore, _) => do
            match ← parseTail after currency with
            | .error _ => .ok none
            | .ok (valueAfter, _) =>
                match asI64 (valueBefore + valueAfter) with
                | .error _ => .ok (some (.error .tooLarge))
                | .ok total => .ok (some (.ok (total, currency)))) := by
  obtain ⟨front, back, isLower, found, rfl, rfl⟩ := first.found
  have frontNonempty : front ≠ [] := by
    rintro rfl
    exact first.beforeNonempty rfl
  obtain ⟨offset, isOffset⟩ : ∃ offset, byteLength front = offset + 1 := by
    obtain ⟨char, rest, rfl⟩ := List.exists_cons_of_ne_nil frontNonempty
    have positive := char.utf8Size_pos
    exact ⟨byteLength (char :: rest) - 1, by rw [byteLength_cons]; omega⟩
  have sliceFront : sliceTo lower (offset + 1) = .ok front := by
    rw [isLower, ← isOffset, List.append_assoc, sliceTo_append]
  have sliceBack : sliceFrom lower (offset + 1 + byteLength word) =
      .ok back := by
    rw [isLower, ← isOffset, ← byteLength_append, sliceFrom_append]
  have number : (trimChars front).all
      (fun char => isDigit char || isSeparator char) = true := by
    rw [List.all_eq_true]
    intro char member
    simpa [IsKept] using first.number char member
  have shaped : ((trimChars front).isEmpty || (trimChars back).isEmpty ||
      !(trimChars front).all
        (fun char => isDigit char || isSeparator char)) = false := by
    simp [number, first.beforeNonempty, first.afterNonempty]
  rw [isOffset] at found
  simp only [tryMultiplier, found, sliceFront, sliceBack, ok_bind, shaped]
  rfl

/-- A number with a multiplier is read or rejected. -/
theorem returns_number {number : List Char} (currency : String)
    (member : entry ∈ multipliers) (kept : ∀ char ∈ number, IsKept char) :
    Returns (parseSingleAmount endsWord (number ++ entry.1) currency) := by
  have positive : ∀ entry ∈ multipliers, 0 < entry.2 := by decide
  obtain ⟨result, reads, _⟩ :=
    amountOfDigits_exact currency kept (positive entry member)
  exact ⟨result, (parseSingleAmount_of_multiplier member kept).trans reads⟩

theorem kept_fraction (first : FirstAround lower word before after)
    (digits : after.all isDigit = true) :
    ∀ char ∈ before ++ '.' :: after, IsKept char := by
  intro char inText
  rcases List.mem_append.mp inText with inBefore | inRest
  · exact first.number char inBefore
  · rcases List.mem_cons.mp inRest with rfl | inAfter
    · exact .inr rfl
    · exact .inl (List.all_eq_true.mp digits char inAfter)

theorem returns_tryMultiplier (member : entry ∈ multipliers)
    (tails : ∀ before after, FirstAround lower entry.1 before after →
      Returns (parseTail after currency)) :
    Returns (tryMultiplier endsWord parseTail lower currency entry.1) := by
  by_cases somewhere : ∃ before after, FirstAround lower entry.1 before after
  · obtain ⟨before, after, first⟩ := somewhere
    rw [tryMultiplier_of_first first]
    split
    · rename_i digits
      obtain ⟨result, reads⟩ := returns_number currency member
        (kept_fraction first digits)
      rw [reads]
      exact ⟨some result, rfl⟩
    · obtain ⟨single, readsSingle⟩ :=
        returns_number currency member first.number
      rw [readsSingle, ok_bind]
      rcases single with error | ⟨value, read⟩
      · exact returns_ok _
      · obtain ⟨tail, readsTail⟩ := tails before after first
        simp only [readsTail, ok_bind]
        rcases tail with error | ⟨valueAfter, readAfter⟩
        · exact returns_ok _
        · simp only
          split <;> exact returns_ok _
  · rw [tryMultiplier_of_nowhere fun before after first =>
      somewhere ⟨before, after, first⟩]
    exact returns_ok _

theorem returns_tryMultipliers {table : List (List Char × Int)}
    (within : table ⊆ multipliers)
    (tails : ∀ entry ∈ table, ∀ before after,
      FirstAround lower entry.1 before after →
        Returns (parseTail after currency)) :
    Returns (tryMultipliers endsWord parseTail lower currency table) := by
  induction table with
  | nil => exact returns_ok _
  | cons entry others ih =>
      obtain ⟨turn, isTurn⟩ := returns_tryMultiplier (within (by simp))
        (tails entry (by simp))
      rw [tryMultipliers, isTurn, ok_bind]
      cases turn with
      | some result => exact returns_ok _
      | none =>
          exact ih (fun other member => within (by simp [member]))
            fun other member => tails other (by simp [member])

theorem tryMultipliers_eq_none_iff {table : List (List Char × Int)} :
    tryMultipliers endsWord parseTail lower currency table = .ok none ↔
      ∀ entry ∈ table,
        tryMultiplier endsWord parseTail lower currency entry.1 =
          .ok none := by
  induction table with
  | nil => simp [tryMultipliers]
  | cons entry others ih =>
      rw [tryMultipliers, List.forall_mem_cons, ← ih]
      cases turn : tryMultiplier endsWord parseTail lower currency
          entry.1 with
      | error panic => simp [error_bind]
      | ok result => cases result <;> simp [ok_bind]

/-- A turn passes unless both parts are amounts. -/
theorem tryMultiplier_eq_none_iff (member : entry ∈ multipliers)
    (first : FirstAround lower entry.1 before after)
    (notDigits : after.all isDigit = false)
    (returns : Returns (parseTail after currency)) :
    tryMultiplier endsWord parseTail lower currency entry.1 = .ok none ↔
      ¬ (Accepts (amountOfDigits before currency entry.2) ∧
        Accepts (parseTail after currency)) := by
  obtain ⟨single, readsSingle⟩ := returns_number currency member first.number
  obtain ⟨tail, readsTail⟩ := returns
  rw [tryMultiplier_of_first first, if_neg (by simp [notDigits]),
    ← parseSingleAmount_of_multiplier member first.number, readsSingle,
    ok_bind]
  unfold Accepts
  rcases single with error | ⟨value, read⟩
  · simp
  · simp only [readsTail, ok_bind]
    rcases tail with error | ⟨valueAfter, readAfter⟩
    · simp
    · simp only
      split <;> simp

end Turns

section Endings

variable {raw body lower before after tail : List Char}
  {hint currency : String} {entry : List Char × Int}

theorem FirstAround.isTail (member : entry ∈ multipliers)
    (first : FirstAround lower entry.1 before after) : IsTail lower after := by
  obtain ⟨front, back, isLower, _, _, isAfter⟩ := first.found
  rw [isLower, isAfter]
  exact isTail_of_split (multiplier_nonempty _ member).1

theorem kelvin_absent (isTail : IsTail (toLowercase endsWord body) tail) :
    kelvinSign ∉ tail :=
  fun inTail => (lowered_toLowercase endsWord body).absent (by decide)
    (by decide) (by decide) (by decide) (isTail.1.subset inTail)

/-- A text without Kelvin signs is read or rejected. -/
theorem returns_of_absent (absent : kelvinSign ∉ raw) (hint : String) :
    Returns (parseAmount endsWord raw hint) := by
  induction size : searchedLength endsWord raw hint using
      Nat.strong_induction_on generalizing raw hint with
  | _ size ih =>
      rw [parseAmount_eq, parseAmountWith]
      simp only
      split
      · exact returns_ok _
      split
      · exact returns_ok _
      obtain ⟨compound, isCompound⟩ : Returns (tryParseCompound endsWord
          (parseAmount endsWord) (detectCurrency (trimChars raw) hint).2
          (detectCurrency (trimChars raw) hint).1) :=
        returns_tryMultipliers (List.Subset.refl _)
          fun entry member before after first =>
            ih _ (size ▸ searchedLength_lt (first.isTail member) _)
              (kelvin_absent (first.isTail member)) _ rfl
      rw [isCompound, ok_bind]
      cases compound with
      | some result => exact returns_ok _
      | none =>
          obtain ⟨result, reads, _⟩ := parseSingleAmount_exact endsWord
            (detectCurrency (trimChars raw) hint).1 fun kelvin => absent
              ((trimChars_inside raw).subset
                ((detectCurrency_inside _ hint).subset
                  ((trimChars_inside _).subset (List.mem_of_getLast? kelvin))))
          exact ⟨result, reads⟩

theorem returns_tail (member : entry ∈ multipliers)
    (first : FirstAround (toLowercase endsWord body) entry.1 before after)
    (currency : String) : Returns (parseAmount endsWord after currency) :=
  returns_of_absent (kelvin_absent (first.isTail member)) currency

theorem returns_compound (body : List Char) (currency : String) :
    Returns (tryParseCompound endsWord (parseAmount endsWord) body
      currency) :=
  returns_tryMultipliers (List.Subset.refl _)
    fun _ member _ _ first => returns_tail member first currency

/-- A number with a multiplier and an amount behind it. -/
def IsSum (endsWord : SigmaRule) (body : List Char) (currency : String) :
    Prop :=
  ∃ entry ∈ multipliers, ∃ before after,
    FirstAround (toLowercase endsWord body) entry.1 before after ∧
    Accepts (amountOfDigits before currency entry.2) ∧
    Accepts (parseAmount endsWord after currency)

/-- Behind a multiplier in a text that ends in `k` are not only digits. -/
theorem notDigits_of_letter {front : List Char}
    (ends : lower = front ++ ['k'])
    (first : FirstAround lower entry.1 before after) :
    after.all isDigit = false := by
  obtain ⟨start, back, isLower, _, _, isAfter⟩ := first.found
  have inBack : 'k' ∈ back := by
    rcases back.eq_nil_or_concat with rfl | ⟨rest, last, rfl⟩
    · exact absurd isAfter first.afterNonempty
    · rw [List.concat_eq_append, ← List.append_assoc, ends] at isLower
      obtain ⟨_, isLast⟩ := List.append_inj' isLower rfl
      cases isLast
      simp
  rw [List.all_eq_false]
  exact ⟨'k', isAfter ▸ mem_trimChars inBack (by decide), by decide⟩

theorem detectCurrency_trimmed (raw : List Char) (hint : String) :
    trimChars (detectCurrency (trimChars raw) hint).2 =
      (detectCurrency (trimChars raw) hint).2 := by
  rcases detectCurrency_cases (trimChars raw) hint with
    ⟨entry, _, stripped⟩ | ⟨_, same⟩
  · generalize detectCurrency (trimChars raw) hint = detected at stripped
    obtain ⟨currency, body⟩ := detected
    obtain ⟨_, rest, isBody, _⟩ := stripSymbol_eq_some stripped
    rw [isBody, trimChars_trimChars]
  · rw [same, trimChars_trimChars]

/-- Behind a Kelvin sign only sums are found by the loop. -/
theorem tryParseCompound_of_kelvin
    (kelvin : body.getLast? = some kelvinSign) :
    tryParseCompound endsWord (parseAmount endsWord) body currency =
        .ok none ↔
      ¬ IsSum endsWord body currency := by
  obtain ⟨text, rfl⟩ := List.getLast?_eq_some_iff.mp kelvin
  obtain ⟨front, piece, ends, _, lowercase⟩ :=
    (lowered_toLowercase endsWord (text ++ [kelvinSign])).concat_inv
  rw [lowercase_kelvinSign lowercase] at ends
  rw [tryParseCompound, tryMultipliers_eq_none_iff]
  constructor
  · rintro passes ⟨entry, member, before, after, first, number, amount⟩
    exact (tryMultiplier_eq_none_iff member first
      (notDigits_of_letter ends first)
      (returns_tail member first currency)).mp (passes entry member)
      ⟨number, amount⟩
  · intro noSum entry member
    by_cases somewhere : ∃ before after,
        FirstAround (toLowercase endsWord (text ++ [kelvinSign])) entry.1
          before after
    · obtain ⟨before, after, first⟩ := somewhere
      rw [tryMultiplier_eq_none_iff member first
        (notDigits_of_letter ends first) (returns_tail member first currency)]
      exact fun parts =>
        noSum ⟨entry, member, before, after, first, parts⟩
    · exact tryMultiplier_of_nowhere fun before after first =>
        somewhere ⟨before, after, first⟩

/-- A Kelvin sign does not end the text, unless it is read as a sum before it
is cut off. -/
def KelvinIsSafe (endsWord : SigmaRule) (raw : List Char) (hint : String) :
    Prop :=
  trimChars raw ≠ [] → '-' ∉ trimChars raw →
    (detectCurrency (trimChars raw) hint).2.getLast? = some kelvinSign →
      IsSum endsWord (detectCurrency (trimChars raw) hint).2
        (detectCurrency (trimChars raw) hint).1

/-- What `parse_amount` ends with, or that it cuts a Kelvin sign. -/
theorem parseAmount_cases (endsWord : SigmaRule) (raw : List Char)
    (hint : String) :
    Returns (parseAmount endsWord raw hint) ∧
        KelvinIsSafe endsWord raw hint ∨
      parseAmount endsWord raw hint = .error .slice ∧
        ¬ KelvinIsSafe endsWord raw hint := by
  rw [parseAmount_eq, parseAmountWith]
  simp only
  split
  · rename_i empty
    exact .inl ⟨returns_ok _,
      fun nonempty => absurd (List.isEmpty_iff.mp empty) nonempty⟩
  split
  · rename_i minus
    exact .inl ⟨returns_ok _, fun _ noMinus => absurd minus noMinus⟩
  rename_i nonempty noMinus
  obtain ⟨compound, isCompound⟩ : Returns (tryParseCompound endsWord
      (parseAmount endsWord) (detectCurrency (trimChars raw) hint).2
      (detectCurrency (trimChars raw) hint).1) :=
    returns_compound _ _
  rw [isCompound, ok_bind]
  by_cases kelvin : (detectCurrency (trimChars raw) hint).2.getLast? =
      some kelvinSign
  · have passes : tryParseCompound endsWord (parseAmount endsWord)
          (detectCurrency (trimChars raw) hint).2
          (detectCurrency (trimChars raw) hint).1 = .ok none ↔ _ :=
      tryParseCompound_of_kelvin kelvin
    rw [isCompound] at passes
    cases compound with
    | some result =>
        refine .inl ⟨returns_ok _, fun _ _ _ => ?_⟩
        by_contra noSum
        simpa using passes.mpr noSum
    | none =>
        refine .inr ⟨?_, fun safe => ?_⟩
        · refine parseSingleAmount_kelvin ?_
          rw [detectCurrency_trimmed, kelvin]
        · exact passes.mp rfl (safe (by simpa using nonempty) noMinus kelvin)
  · refine .inl ⟨?_, fun _ _ ends => absurd ends kelvin⟩
    cases compound with
    | some result => exact returns_ok _
    | none =>
        obtain ⟨result, reads, _⟩ := parseSingleAmount_exact endsWord
          (detectCurrency (trimChars raw) hint).1
          (by rwa [detectCurrency_trimmed])
        exact ⟨result, reads⟩

theorem returns_parseAmount_iff :
    Returns (parseAmount endsWord raw hint) ↔
      KelvinIsSafe endsWord raw hint := by
  rcases parseAmount_cases endsWord raw hint with
    ⟨returns, safe⟩ | ⟨panics, cut⟩
  · exact ⟨fun _ => safe, fun _ => returns⟩
  · rw [panics]
    exact ⟨fun returns => absurd returns (not_returns_error _),
      fun safe => absurd safe cut⟩

end Endings

end Conversation

end ZaloBot
