import ZaloBot.AmountPanics
import ZaloBot.FoldedFields

/-!
# Where an amount is split

The compound rule tries the multipliers in the order of a table and moves on
where one does not lead to an amount.  Still there is at most one multiplier
that a text can be read around: digits and separators lead up to it, and the
only multiplier that begins another one leaves a text that is no amount.
-/

namespace ZaloBot

namespace Conversation

open RustText

variable {endsWord : SigmaRule}

section Kinds

/-- A character that may stand before a multiplier. -/
def isBlankOrKept (char : Char) : Bool :=
  isWhitespace char || isDigit char || isSeparator char

theorem isBlankOrKept_iff {char : Char} :
    isBlankOrKept char = true ↔ isWhitespace char = true ∨ IsKept char := by
  simp [isBlankOrKept, IsKept, or_assoc]

/-- A text is cut in one way where its characters change their kind. -/
theorem append_eq_of_kinds {kind : Char → Bool}
    {front other back rest : List Char}
    (ofKind : ∀ char ∈ front, kind char = true)
    (otherOfKind : ∀ char ∈ other, kind char = true)
    (changes : ∀ char ∈ back.head?, kind char = false)
    (otherChanges : ∀ char ∈ rest.head?, kind char = false)
    (same : front ++ back = other ++ rest) :
    front = other ∧ back = rest := by
  induction front generalizing other with
  | nil =>
      cases other with
      | nil => exact ⟨rfl, same⟩
      | cons char others =>
          have head : back.head? = some char := by
            rw [List.nil_append] at same
            simp [same]
          have first := otherOfKind char (by simp)
          rw [changes char head] at first
          nomatch first
  | cons char chars ih =>
      cases other with
      | nil =>
          have head : rest.head? = some char := by
            rw [List.nil_append] at same
            simp [← same]
          have first := ofKind char (by simp)
          rw [otherChanges char head] at first
          nomatch first
      | cons first others =>
          simp only [List.cons_append, List.cons.injEq] at same
          obtain ⟨rfl, tails⟩ := same
          obtain ⟨rfl, backs⟩ := ih
            (fun char member => ofKind char (by simp [member]))
            (fun char member => otherOfKind char (by simp [member])) tails
          exact ⟨rfl, backs⟩

/-- What the first letters of the multipliers are not. -/
theorem multiplier_head : ∀ entry ∈ multipliers, ∀ char ∈ entry.1.head?,
    isBlankOrKept char = false ∧ char ≠ 'i' := by
  have apart : ∀ char ∈ ['t', 'c', 'k'],
      isBlankOrKept char = false ∧ char ≠ 'i' := by
    decide
  intro entry member char first
  refine apart char ?_
  simp only [multipliers, List.mem_cons, List.not_mem_nil, or_false] at member
  rcases member with rfl | rfl | rfl | rfl | rfl | rfl <;>
    (cases first; simp)

/-- The one multiplier that begins others leaves an `i` of them. -/
theorem multiplier_extends : ∀ entry ∈ multipliers, ∀ other ∈ multipliers,
    entry.1 <+: other.1 →
      entry = other ∨ (other.1.drop entry.1.length).head? = some 'i' := by
  decide

theorem head?_trimChars {char : Char} {rest : List Char}
    (solid : isWhitespace char = false) :
    (trimChars (char :: rest)).head? = some char := by
  have inside : char ∈ trimChars (char :: rest) :=
    mem_trimChars (by simp) solid
  obtain ⟨front, back, isText, blank, _⟩ := trimChars_split (char :: rest)
  have noFront : front = [] := by
    cases front with
    | nil => rfl
    | cons first others =>
        simp only [List.cons_append, List.cons.injEq] at isText
        have blankFirst := blank first (by simp)
        rw [← isText.1, solid] at blankFirst
        nomatch blankFirst
  subst noFront
  cases trimmed : trimChars (char :: rest) with
  | nil => simp [trimmed] at inside
  | cons first others =>
      rw [trimmed] at isText
      simp only [List.nil_append, List.cons_append, List.cons.injEq] at isText
      rw [isText.1]
      rfl

/-- A text around which there are digits and separators after trimming. -/
theorem blankOrKept_of_trimmed {front : List Char}
    (number : ∀ char ∈ trimChars front, IsKept char) :
    ∀ char ∈ front, isBlankOrKept char = true := by
  obtain ⟨before, after, isFront, blank, blankAfter⟩ := trimChars_split front
  intro char member
  rw [isBlankOrKept_iff]
  rw [isFront] at member
  simp only [List.mem_append] at member
  rcases member with (inBefore | inside) | inAfter
  · exact .inl (blank char inBefore)
  · exact .inr (number char inside)
  · exact .inl (blankAfter char inAfter)

end Kinds

section Splits

variable {lower before after before' after' : List Char}
  {entry other : List Char × Int}

/-- The multiplier that a text is read around, with the number before it and
what is behind it. -/
structure Splits (lower : List Char) (entry : List Char × Int)
    (before after : List Char) : Prop where
  member : entry ∈ multipliers
  first : FirstAround lower entry.1 before after
  outside : after.head? ≠ some 'i'

theorem changes_of_multiplier (member : entry ∈ multipliers)
    (back : List Char) :
    ∀ char ∈ (entry.1 ++ back).head?, isBlankOrKept char = false := by
  intro char head
  cases word : entry.1 with
  | nil => exact absurd word (multiplier_nonempty entry member).1
  | cons first others =>
      rw [word, List.cons_append, List.head?_cons, Option.mem_some_iff] at head
      subst head
      exact (multiplier_head entry member first (by simp [word])).1

/-- A multiplier that begins with another one is that other one, unless its
`i` is left behind. -/
theorem multiplier_eq_of_words {back back' : List Char}
    (member : entry ∈ multipliers) (otherMember : other ∈ multipliers)
    (same : entry.1 ++ back = other.1 ++ back')
    (begins : entry.1 <+: other.1)
    (outside : (trimChars back).head? ≠ some 'i') : entry = other := by
  rcases multiplier_extends entry member other otherMember begins with
    isOther | letter
  · exact isOther
  · obtain ⟨rest, isWord⟩ := begins
    rw [← isWord, List.drop_left] at letter
    rw [← isWord, List.append_assoc, List.append_cancel_left_eq] at same
    subst same
    cases rest with
    | nil => nomatch letter
    | cons first others =>
        cases letter
        exact absurd (head?_trimChars (by decide)) outside

/-- A text is read around one multiplier. -/
theorem Splits.unique (splits : Splits lower entry before after)
    (others : Splits lower other before' after') :
    other = entry ∧ before' = before ∧ after' = after := by
  obtain ⟨front, back, isLower, _, rfl, rfl⟩ := splits.first.found
  obtain ⟨front', back', isLower', _, rfl, rfl⟩ := others.first.found
  obtain ⟨rfl, words⟩ := append_eq_of_kinds
    (blankOrKept_of_trimmed splits.first.number)
    (blankOrKept_of_trimmed others.first.number)
    (changes_of_multiplier splits.member back)
    (changes_of_multiplier others.member back')
    (by rw [← List.append_assoc, ← List.append_assoc, ← isLower, isLower'])
  have isEntry : other = entry := by
    rcases List.prefix_or_prefix_of_prefix (List.prefix_append entry.1 back)
        (words ▸ List.prefix_append other.1 back') with begins | begins
    · exact (multiplier_eq_of_words splits.member others.member words begins
        splits.outside).symm
    · exact multiplier_eq_of_words others.member splits.member words.symm
        begins others.outside
  subst isEntry
  rw [List.append_cancel_left_eq] at words
  subst words
  exact ⟨rfl, rfl, rfl⟩

end Splits

section Lowercase

theorem blankOrKept_of_lowercase {char : Char} {piece : List Char}
    (lowercase : IsLowercase char piece)
    (kind : isBlankOrKept char = true) :
    ∀ other ∈ piece, isBlankOrKept other = true := by
  intro other member
  rw [isBlankOrKept_iff] at kind ⊢
  rcases kind with space | kept
  · exact .inl (by rw [lowercase.isWhitespace_eq other member, space])
  · have already :=
      (tokenCharacter_facts char (mem_tokenCharacters_of_kept kept)).1
    simp only [isLowercaseAlready, Bool.and_eq_true, beq_iff_eq, bne_iff_ne,
      ne_eq] at already
    rcases lowercase with rfl | ⟨sigma, _⟩
    · rw [already.1, List.mem_singleton] at member
      exact .inr (member ▸ kept)
    · exact absurd sigma already.2

theorem blankOrKept_of_lowered {text lowered : List Char}
    (lowers : Lowered text lowered)
    (kinds : ∀ char ∈ text, isBlankOrKept char = true) :
    ∀ char ∈ lowered, isBlankOrKept char = true := by
  induction lowers with
  | nil => simp
  | cons head _ ih =>
      intro char member
      rcases List.mem_append.mp member with inPiece | inRest
      · exact blankOrKept_of_lowercase head (kinds _ (by simp)) char inPiece
      · exact ih (fun other inside => kinds other (by simp [inside])) char
          inRest

theorem blankOrKept_of_keepDigits {text digitsOnly : List Char}
    (keeps : keepDigits text = .ok digitsOnly) :
    ∀ char ∈ text, isBlankOrKept char = true := by
  induction text generalizing digitsOnly with
  | nil => simp
  | cons first rest ih =>
      rw [keepDigits] at keeps
      have others : ∃ inner, keepDigits rest = .ok inner := by
        split at keeps
        · cases inRest : keepDigits rest with
          | error error => simp [inRest, Except.map] at keeps
          | ok inner => exact ⟨inner, rfl⟩
        · split at keeps
          · exact ⟨_, keeps⟩
          · cases keeps
      obtain ⟨inner, inRest⟩ := others
      intro char member
      rcases List.mem_cons.mp member with rfl | member
      · split at keeps
        · rename_i kept
          simp only [Bool.or_eq_true] at kept
          exact isBlankOrKept_iff.mpr (.inr kept)
        · split at keeps
          · rename_i space
            subst space
            decide
          · cases keeps
      · exact ih inRest char member

/-- The lowercase of a text that is read as a single number: what may stand
before a multiplier, and perhaps one. -/
theorem lower_of_single {body : List Char} {currency : String}
    {result : Int × String}
    (accepted : parseSingleAmount endsWord body currency =
      .ok (.ok result)) :
    ∃ front ending, toLowercase endsWord (trimChars body) = front ++ ending ∧
      (∀ char ∈ front, isBlankOrKept char = true) ∧
      (ending = [] ∨ ∃ entry ∈ multipliers, ending = entry.1) := by
  by_cases kelvin : (trimChars body).getLast? = some kelvinSign
  · rw [parseSingleAmount_kelvin kelvin] at accepted
    nomatch accepted
  rw [parseSingleAmount_eq kelvin] at accepted
  cases keeps : keepDigits (cutMultiplier endsWord (trimChars body)).2 with
  | error error =>
      rw [keeps] at accepted
      nomatch accepted
  | ok digitsOnly =>
      have kinds := blankOrKept_of_keepDigits keeps
      unfold cutMultiplier at kinds
      cases found : multipliers.find?
          (·.1.isSuffixOf (toLowercase endsWord (trimChars body))) with
      | none =>
          rw [found] at kinds
          exact ⟨_, [], (List.append_nil _).symm,
            blankOrKept_of_lowered (lowered_toLowercase endsWord _) kinds,
            .inl rfl⟩
      | some entry =>
          rw [found] at kinds
          have member := List.mem_of_find?_eq_some found
          have ends := List.find?_some found
          obtain ⟨front, isLower⟩ := List.isSuffixOf_iff_suffix.mp ends
          have lowers := lowered_toLowercase endsWord (trimChars body)
          rw [← isLower] at lowers
          obtain ⟨start, last, isBody, lowersStart, matched⟩ :=
            lowers.suffix_inv fun char inWord =>
              (multiplier_letters entry member char inWord).1
          simp only [isBody, List.length_append, matched.length_eq,
            Nat.add_sub_cancel, List.take_left] at kinds
          refine ⟨front, entry.1, isLower.symm,
            blankOrKept_of_lowered lowersStart fun char inStart => ?_,
            .inr ⟨entry, member, rfl⟩⟩
          by_cases space : isWhitespace char = true
          · exact isBlankOrKept_iff.mpr (.inl space)
          · exact kinds char
              (mem_trimChars inStart (Bool.eq_false_iff.mpr space))

end Lowercase

section Rejected

variable {lower before after body raw : List Char}
  {entry : List Char × Int} {currency hint : String} {result : Int × String}

/-- A text that is read around a multiplier is no single number. -/
theorem Splits.not_single
    (splits : Splits (toLowercase endsWord (trimChars body)) entry before
      after) :
    parseSingleAmount endsWord body currency ≠ .ok (.ok result) := by
  intro accepted
  obtain ⟨front, ending, isLower, kinds, isEnding⟩ :=
    lower_of_single accepted
  obtain ⟨start, back, isSplit, _, rfl, rfl⟩ := splits.first.found
  rw [isLower, List.append_assoc] at isSplit
  have changes : ∀ char ∈ ending.head?, isBlankOrKept char = false := by
    rcases isEnding with rfl | ⟨last, member, rfl⟩
    · simp
    · simpa using changes_of_multiplier member []
  obtain ⟨_, isBack⟩ := append_eq_of_kinds kinds
    (blankOrKept_of_trimmed splits.first.number) changes
    (changes_of_multiplier splits.member back) isSplit
  rcases isEnding with rfl | ⟨last, member, rfl⟩
  · have nonempty := (multiplier_nonempty entry splits.member).1
    simp [nonempty] at isBack
  · have words : entry.1 ++ back = last.1 ++ [] := by
      rw [List.append_nil, isBack]
    have same : entry = last := multiplier_eq_of_words splits.member member
      words (isBack ▸ List.prefix_append entry.1 back) splits.outside
    subst same
    have noBack : back = [] := by simpa using isBack
    exact splits.first.afterNonempty (by rw [noBack]; rfl)

theorem head?_toLowercase {text : List Char} (head : text.head? = some 'i') :
    (toLowercase endsWord text).head? = some 'i' := by
  cases text with
  | nil => nomatch head
  | cons first rest =>
      cases head
      have lowers := lowered_toLowercase endsWord ('i' :: rest)
      generalize toLowercase endsWord ('i' :: rest) = lowered at lowers
      rcases lowers with _ | ⟨lowercase, _⟩
      rcases lowercase with rfl | ⟨sigma, _⟩
      · rfl
      · exact absurd sigma (by decide)

theorem head?_detected (head : (trimChars raw).head? = some 'i') :
    (detectCurrency (trimChars raw) hint).2.head? = some 'i' := by
  have marks : ∀ entry ∈ currencySymbols, ∀ char ∈ entry.1.head?,
      char ≠ 'i' := by
    simp [currencySymbols]
  have marked : ∀ entry ∈ currencySymbols, entry.1 ≠ [] := by decide
  rcases detectCurrency_cases (trimChars raw) hint with
    ⟨symbol, member, stripped⟩ | ⟨_, same⟩
  · generalize detectCurrency (trimChars raw) hint = detected at stripped
    obtain ⟨currency, body⟩ := detected
    obtain ⟨_, rest, isBody, isText⟩ := stripSymbol_eq_some stripped
    have symbolHead : ∀ back, (symbol.1 ++ back).head? ≠ some 'i' := by
      intro back isHead
      cases isSymbol : symbol.1 with
      | nil => exact marked symbol member isSymbol
      | cons first others =>
          rw [isSymbol] at isHead
          cases isHead
          exact marks symbol member 'i' (by simp [isSymbol]) rfl
    rcases isText with isText | isText
    · rw [isText] at head
      exact absurd head (symbolHead rest)
    · rw [isText] at head
      cases rest with
      | nil => exact absurd (by simpa using head) (symbolHead [])
      | cons first others =>
          cases head
          rw [isBody]
          exact head?_trimChars (by decide)
  · rw [same]
    exact head

/-- The rest of a longer multiplier is no amount. -/
theorem not_accepts_of_letter (head : raw.head? = some 'i') :
    ¬ Accepts (parseAmount endsWord raw hint) := by
  rintro ⟨result, accepted⟩
  have trimmedHead : (trimChars raw).head? = some 'i' := by
    cases raw with
    | nil => nomatch head
    | cons first rest =>
        cases head
        exact head?_trimChars (by decide)
  have bodyHead : (detectCurrency (trimChars raw) hint).2.head? =
      some 'i' :=
    head?_detected trimmedHead
  have lowerHead : (toLowercase endsWord
      (detectCurrency (trimChars raw) hint).2).head? = some 'i' :=
    head?_toLowercase bodyHead
  have noKind : isBlankOrKept 'i' = false := by decide
  rcases parseAmount_eq_ok accepted with compound | ⟨_, single⟩
  · obtain ⟨minor, read⟩ := result
    obtain ⟨_, entry, _, before, after, _, _, around, _⟩ :=
      tryMultipliers_eq_some compound
    obtain ⟨front, back, isLower, rfl, _⟩ := around.split
    rw [isLower] at lowerHead
    cases front with
    | nil => exact around.beforeNonempty rfl
    | cons first others =>
        cases lowerHead
        have kind := blankOrKept_of_trimmed around.number 'i' (by simp)
        rw [noKind] at kind
        nomatch kind
  · obtain ⟨front, ending, isLower, kinds, isEnding⟩ := lower_of_single single
    rw [detectCurrency_trimmed] at isLower
    rw [isLower] at lowerHead
    cases front with
    | nil =>
        rcases isEnding with rfl | ⟨last, member, rfl⟩
        · nomatch lowerHead
        · exact (multiplier_head last member 'i' lowerHead).2 rfl
    | cons first others =>
        cases lowerHead
        have kind := kinds 'i' (by simp)
        rw [noKind] at kind
        nomatch kind

end Rejected

section Searching

variable {before after body lower : List Char} {entry : List Char × Int}
  {currency : String}
  {parseTail : List Char → String → Checked AmountResult}

theorem tryMultipliers_append {front : List (List Char × Int)}
    (rest : List (List Char × Int))
    (passes : tryMultipliers endsWord parseTail lower currency front =
      .ok none) :
    tryMultipliers endsWord parseTail lower currency (front ++ rest) =
      tryMultipliers endsWord parseTail lower currency rest := by
  rw [tryMultipliers_eq_none_iff] at passes
  induction front with
  | nil => rfl
  | cons first others ih =>
      rw [List.cons_append, tryMultipliers, passes first (by simp), ok_bind]
      exact ih fun other member => passes other (by simp [member])

/-- A multiplier that the text is not read around is passed over. -/
theorem passes_of_not_splits (member : entry ∈ multipliers)
    (passed : ∀ before after,
      ¬ Splits (toLowercase endsWord body) entry before after) :
    tryMultiplier endsWord (parseAmount endsWord) (toLowercase endsWord body)
      currency entry.1 = .ok none := by
  by_cases somewhere : ∃ before after,
      FirstAround (toLowercase endsWord body) entry.1 before after
  · obtain ⟨before, after, first⟩ := somewhere
    have letter : after.head? = some 'i' := by
      by_contra outside
      exact passed before after ⟨member, first, outside⟩
    have notDigits : after.all isDigit = false := by
      cases after with
      | nil => nomatch letter
      | cons char rest =>
          cases letter
          rfl
    rw [tryMultiplier_eq_none_iff member first notDigits
      (returns_tail member first currency)]
    exact fun both => not_accepts_of_letter letter both.2
  · exact tryMultiplier_of_nowhere
      fun before after first => somewhere ⟨before, after, first⟩

/-- Nothing to read the text around. -/
theorem tryParseCompound_of_alone
    (alone : ∀ entry before after,
      ¬ Splits (toLowercase endsWord body) entry before after) :
    tryParseCompound endsWord (parseAmount endsWord) body currency =
      .ok none :=
  tryMultipliers_eq_none_iff.mpr fun entry member =>
    passes_of_not_splits member (alone entry)

/-- The loop over the multipliers is the turn of the one that the text is read
around. -/
theorem tryParseCompound_of_splits
    (splits : Splits (toLowercase endsWord body) entry before after) :
    tryParseCompound endsWord (parseAmount endsWord) body currency =
      tryMultiplier endsWord (parseAmount endsWord)
        (toLowercase endsWord body) currency entry.1 := by
  have others : ∀ other ∈ multipliers, other ≠ entry →
      tryMultiplier endsWord (parseAmount endsWord)
        (toLowercase endsWord body) currency other.1 = .ok none :=
    fun other member different => passes_of_not_splits member
      fun _ _ otherSplits => different (splits.unique otherSplits).1
  have distinct : multipliers.Nodup := by decide
  obtain ⟨earlier, later, isTable⟩ := List.append_of_mem splits.member
  rw [isTable] at distinct
  have passesEarlier : tryMultipliers endsWord (parseAmount endsWord)
      (toLowercase endsWord body) currency earlier = .ok none := by
    refine tryMultipliers_eq_none_iff.mpr fun other inEarlier => ?_
    refine others other (by simp [isTable, inEarlier]) ?_
    rintro rfl
    exact (List.nodup_append.mp distinct).2.2 other inEarlier other (by simp)
      rfl
  have passesLater : tryMultipliers endsWord (parseAmount endsWord)
      (toLowercase endsWord body) currency later = .ok none := by
    refine tryMultipliers_eq_none_iff.mpr fun other inLater => ?_
    refine others other (by simp [isTable, inLater]) ?_
    rintro rfl
    exact (List.nodup_cons.mp (List.nodup_append.mp distinct).2.1).1 inLater
  rw [tryParseCompound, isTable, tryMultipliers_append _ passesEarlier,
    tryMultipliers]
  cases tryMultiplier endsWord (parseAmount endsWord)
      (toLowercase endsWord body) currency entry.1 with
  | error panic => rfl
  | ok found =>
      cases found with
      | none => exact passesLater
      | some result => rfl

end Searching

section Readings

variable {raw before after digitsOnly : List Char}
  {entry : List Char × Int} {hint : String} {minor : Int}

/-- A text that `parse_amount` looks at. -/
def IsReadable (raw : List Char) : Prop :=
  trimChars raw ≠ [] ∧ '-' ∉ trimChars raw

/-- A text without a currency symbol at its ends. -/
def Unnamed (raw : List Char) : Prop :=
  ∀ entry ∈ currencySymbols, stripSymbol (trimChars raw) entry = none

/-- A computation that ends with a number of minor units. -/
def Yields (computation : Checked AmountResult) (minor : Int) : Prop :=
  ∃ read, computation = .ok (.ok (minor, read))

@[simp]
theorem not_yields_reject (error : AmountError) :
    ¬ Yields (reject error) minor := by
  simp [Yields, reject]

@[simp]
theorem yields_ok_iff {value : Int} {read : String} :
    Yields (.ok (.ok (value, read))) minor ↔ minor = value := by
  simp [Yields, eq_comm]

theorem detectCurrency_of_unnamed (unnamed : Unnamed raw) (hint : String) :
    detectCurrency (trimChars raw) hint =
      (hintCurrency hint, trimChars raw) := by
  rw [detectCurrency, List.findSome?_eq_none_iff.mpr unnamed]
  rfl

theorem parseAmount_eq_ok_iff {result : Int × String}
    (unnamed : Unnamed raw) :
    parseAmount endsWord raw hint = .ok (.ok result) ↔
      IsReadable raw ∧
        (tryParseCompound endsWord (parseAmount endsWord) (trimChars raw)
            (hintCurrency hint) = .ok (some (.ok result)) ∨
          tryParseCompound endsWord (parseAmount endsWord) (trimChars raw)
              (hintCurrency hint) = .ok none ∧
            parseSingleAmount endsWord (trimChars raw) (hintCurrency hint) =
              .ok (.ok result)) := by
  rw [parseAmount_eq, parseAmountWith, detectCurrency_of_unnamed unnamed,
    IsReadable]
  by_cases empty : trimChars raw = []
  · simp [empty, reject]
  by_cases negative : '-' ∈ trimChars raw
  · simp [empty, negative, reject]
  simp only [List.isEmpty_iff, empty, negative, if_false, not_false_eq_true,
    ne_eq, true_and]
  cases tryParseCompound endsWord (parseAmount endsWord) (trimChars raw)
      (hintCurrency hint) with
  | error panic => simp [error_bind]
  | ok found => cases found <;> simp [ok_bind]

/-- A text that is not read around a multiplier. -/
theorem yields_alone_iff (unnamed : Unnamed raw)
    (alone : ∀ entry before after,
      ¬ Splits (toLowercase endsWord (trimChars raw)) entry before after)
    (solid : (trimChars raw).getLast? ≠ some kelvinSign)
    (keeps : keepDigits (cutMultiplier endsWord (trimChars raw)).2 =
      .ok digitsOnly) :
    Yields (parseAmount endsWord raw hint) minor ↔
      IsReadable raw ∧
        Yields (amountOfDigits digitsOnly (hintCurrency hint)
          (cutMultiplier endsWord (trimChars raw)).1) minor := by
  have single : parseSingleAmount endsWord (trimChars raw)
      (hintCurrency hint) = amountOfDigits digitsOnly (hintCurrency hint)
        (cutMultiplier endsWord (trimChars raw)).1 := by
    rw [parseSingleAmount_eq (by rwa [trimChars_trimChars]),
      trimChars_trimChars, keeps]
  simp only [Yields, parseAmount_eq_ok_iff unnamed,
    tryParseCompound_of_alone alone, single]
  simp

/-- A text that is read around a multiplier, as that multiplier reads it. -/
theorem parseAmount_eq_ok_of_splits {result : Int × String}
    (unnamed : Unnamed raw)
    (splits : Splits (toLowercase endsWord (trimChars raw)) entry before
      after) :
    parseAmount endsWord raw hint = .ok (.ok result) ↔
      IsReadable raw ∧
        tryMultiplier endsWord (parseAmount endsWord)
          (toLowercase endsWord (trimChars raw)) (hintCurrency hint) entry.1 =
            .ok (some (.ok result)) := by
  have notSingle : parseSingleAmount endsWord (trimChars raw)
      (hintCurrency hint) ≠ .ok (.ok result) := by
    have again : Splits (toLowercase endsWord (trimChars (trimChars raw)))
        entry before after := by
      rwa [trimChars_trimChars]
    exact again.not_single
  rw [parseAmount_eq_ok_iff unnamed, tryParseCompound_of_splits splits]
  simp [notSingle]

/-- A multiplier as the decimal point of digits. -/
theorem yields_fraction_iff (unnamed : Unnamed raw)
    (splits : Splits (toLowercase endsWord (trimChars raw)) entry before
      after)
    (digits : after.all isDigit = true) :
    Yields (parseAmount endsWord raw hint) minor ↔
      IsReadable raw ∧
        Yields (amountOfDigits (before ++ '.' :: after) (hintCurrency hint)
          entry.2) minor := by
  simp only [Yields, parseAmount_eq_ok_of_splits unnamed splits,
    tryMultiplier_of_first splits.first, digits, if_true,
    parseSingleAmount_of_multiplier splits.member
      (kept_fraction splits.first digits)]
  cases amountOfDigits (before ++ '.' :: after) (hintCurrency hint)
      entry.2 <;>
    simp [Except.map]

/-- A multiplier between a number and an amount. -/
theorem yields_sum_iff (unnamed : Unnamed raw)
    (splits : Splits (toLowercase endsWord (trimChars raw)) entry before
      after)
    (notDigits : after.all isDigit = false) :
    Yields (parseAmount endsWord raw hint) minor ↔
      IsReadable raw ∧ ∃ first second,
        Yields (amountOfDigits before (hintCurrency hint) entry.2) first ∧
        Yields (parseAmount endsWord after (hintCurrency hint)) second ∧
        asI64 (first + second) = .ok minor := by
  simp only [Yields, parseAmount_eq_ok_of_splits unnamed splits,
    tryMultiplier_of_first splits.first, notDigits, Bool.false_eq_true,
    if_false,
    parseSingleAmount_of_multiplier splits.member splits.first.number]
  cases amountOfDigits before (hintCurrency hint) entry.2 with
  | error panic => simp [error_bind]
  | ok single =>
      rcases single with error | ⟨first, read⟩
      · simp [ok_bind]
      cases parseAmount endsWord after (hintCurrency hint) with
      | error panic => simp [ok_bind, error_bind]
      | ok tail =>
          rcases tail with error | ⟨second, readAfter⟩
          · simp [ok_bind]
          cases adds : asI64 (first + second) with
          | error panic => simp [ok_bind, adds]
          | ok total => simp [ok_bind, adds]

/-- The currency of an accepted amount. -/
theorem read_of_accepted {read : String}
    (accepted : parseAmount endsWord raw hint = .ok (.ok (minor, read))) :
    read = (detectCurrency (trimChars raw) hint).1 := by
  obtain ⟨upper, _⟩ := detectCurrency_upper (trimChars raw) hint
  rcases parseAmount_eq_ok accepted with compound | ⟨_, single⟩
  · obtain ⟨_, entry, _, before, after, _, _, _, joins⟩ :=
      tryMultipliers_eq_some compound
    cases joins with
    | fraction _ single => exact (parseSingleAmount_currency single).eq upper
    | sum _ _ _ => rfl
  · exact (parseSingleAmount_currency single).eq upper

end Readings

section Pieces

/-- The pieces of a text that are read as single numbers, from the digits and
separators of each with the factor of its multiplier.  A text with a currency
symbol at an end is left alone. -/
inductive Pieces (endsWord : SigmaRule) (Holds : List Char → Int → Prop) :
    List Char → Prop where
  | named {raw : List Char} (named : ¬ Unnamed raw) :
      Pieces endsWord Holds raw
  | single {raw digitsOnly : List Char} (unnamed : Unnamed raw)
      (alone : ∀ entry before after,
        ¬ Splits (toLowercase endsWord (trimChars raw)) entry before after)
      (solid : (trimChars raw).getLast? ≠ some kelvinSign)
      (keeps : keepDigits (cutMultiplier endsWord (trimChars raw)).2 =
        .ok digitsOnly)
      (holds : Holds digitsOnly
        (cutMultiplier endsWord (trimChars raw)).1) :
      Pieces endsWord Holds raw
  | fraction {raw before after : List Char} {entry : List Char × Int}
      (unnamed : Unnamed raw)
      (splits : Splits (toLowercase endsWord (trimChars raw)) entry before
        after)
      (digits : after.all isDigit = true)
      (holds : Holds (before ++ '.' :: after) entry.2) :
      Pieces endsWord Holds raw
  | sum {raw before after : List Char} {entry : List Char × Int}
      (unnamed : Unnamed raw)
      (splits : Splits (toLowercase endsWord (trimChars raw)) entry before
        after)
      (notDigits : after.all isDigit = false) (holds : Holds before entry.2)
      (rest : Pieces endsWord Holds after) :
      Pieces endsWord Holds raw

variable {raw : List Char} {hint : String} {minor : Int}

/-- An accepted amount has pieces. -/
theorem exists_pieces
    (yields : Yields (parseAmount endsWord raw hint) minor) :
    Pieces endsWord (fun _ _ => True) raw := by
  induction size : searchedLength endsWord raw hint using
      Nat.strong_induction_on generalizing raw hint minor with
  | _ size ih =>
      by_cases unnamed : Unnamed raw
      swap
      · exact .named unnamed
      by_cases around : ∃ entry before after,
          Splits (toLowercase endsWord (trimChars raw)) entry before after
      · obtain ⟨entry, before, after, splits⟩ := around
        cases digits : after.all isDigit with
        | true => exact .fraction unnamed splits digits trivial
        | false =>
            obtain ⟨_, first, second, _, tail, _⟩ :=
              (yields_sum_iff unnamed splits digits).mp yields
            have isTail := splits.first.isTail splits.member
            have shorter := searchedLength_lt isTail (hintCurrency hint)
            rw [searchedLength, detectCurrency_of_unnamed unnamed] at size
            exact .sum unnamed splits digits trivial
              (ih _ (size ▸ shorter) tail rfl)
      · have alone : ∀ entry before after,
            ¬ Splits (toLowercase endsWord (trimChars raw)) entry before
              after :=
          fun entry before after splits => around ⟨_, _, _, splits⟩
        obtain ⟨read, accepted⟩ := yields
        rw [parseAmount_eq_ok_iff unnamed,
          tryParseCompound_of_alone alone] at accepted
        obtain ⟨_, found | ⟨_, single⟩⟩ := accepted
        · cases found
        by_cases kelvin : (trimChars raw).getLast? = some kelvinSign
        · rw [parseSingleAmount_kelvin (by rwa [trimChars_trimChars])]
            at single
          cases single
        rw [parseSingleAmount_eq (by rwa [trimChars_trimChars]),
          trimChars_trimChars] at single
        cases keeps : keepDigits (cutMultiplier endsWord (trimChars raw)).2
            with
        | error error =>
            rw [keeps] at single
            cases single
        | ok digitsOnly => exact .single unnamed alone kelvin keeps trivial

end Pieces

end Conversation

end ZaloBot
