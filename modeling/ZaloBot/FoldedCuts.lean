import ZaloBot.ParsingPanics
import ZaloBot.WordBoundaries

/-!
# Folded texts cut in two

`fold` writes the words of a text without capitals and diacritics.  A text
whose folded words begin with given ones is cut behind these exactly if what
follows the cut folds to the other words.
-/

namespace ZaloBot

namespace Conversation

open RustText

section Folding

variable (tables : TextTables)

/-- The characters of a lowercase text without diacritics. -/
def clean (lowered : List Char) : List Char :=
  ((lowered.flatMap tables.decompose).filter
    (!tables.isCombiningMark ·)).map fun char =>
      if char = 'đ' then 'd' else char

/-- The words of a folded text. -/
def foldedWords (text : List Char) : List (List Char) :=
  words (stripDiacritics tables text)

/-- The letters that are written in place of others, and the space. -/
def plainLetters : List Char :=
  ['d', Char.ofNat 963, Char.ofNat 962, ' ']

/-- What the tables are documented to be: capital sigmas follow the rule on
cased letters and characters that case ignores, whitespace is neither, and what
decomposes into combining marks is no cased letter unless case ignores it;
decomposition stays within words, is done at once, keeps lowercase, and leaves
plain letters alone. -/
structure Lawful (isCaseIgnorable isCased : Char → Bool) : Prop where
  endsWord : tables.endsWord = finalSigma isCaseIgnorable isCased
  within : DecomposesWithinWords tables
  spaces : ∀ char, isWhitespace char = true →
    isCaseIgnorable char = false ∧ isCased char = false
  marks : ∀ char,
    (∀ other ∈ (lowercaseChar char).flatMap tables.decompose,
      tables.isCombiningMark other = true) →
    isCaseIgnorable char = true ∨ isCased char = false
  decomposed : ∀ char, isLowercaseAlready char = true →
    ∀ other ∈ tables.decompose char, isLowercaseAlready other = true ∧
      tables.decompose other = [other]
  plain : ∀ char ∈ plainLetters, tables.decompose char = [char] ∧
    tables.isCombiningMark char = false

variable {tables} {isCaseIgnorable isCased : Char → Bool}
variable {text lowered front back : List Char}

theorem clean_append (first second : List Char) :
    clean tables (first ++ second) =
      clean tables first ++ clean tables second := by
  simp [clean]

theorem fold_eq (text : String) :
    (fold tables text).toList =
      [' '].intercalate (foldedWords tables (trimChars text.toList)) := by
  simp [fold, splitWhitespace_eq, foldedWords, String.toList_intercalate,
    Function.comp_def]

theorem small_isSolid : ∀ small ∈ [Char.ofNat 963, Char.ofNat 962],
    isWhitespace small = false := by
  decide

theorem isWord_of_folded {piece : List Char}
    (member : piece ∈ foldedWords tables text) : IsWord piece :=
  isWord_of_mem member

section Lawfulness

variable (lawful : Lawful tables isCaseIgnorable isCased)
include lawful

theorem respelled_clean (lowers : Lowered text lowered) :
    Respelled text (clean tables lowered) := by
  refine ((lowers.respelled.flatMap lawful.within).filter _).map
    fun char => ?_
  split
  · rename_i barred
    rw [barred]
    decide
  · rfl

theorem isWhitespace_clean {char : Char} {piece : List Char}
    (lowercase : IsLowercase char piece) :
    ∀ other ∈ clean tables piece, isWhitespace other = isWhitespace char := by
  intro other member
  obtain ⟨letter, inFilter, isOther⟩ := List.mem_map.mp member
  obtain ⟨source, inPiece, decomposed⟩ :=
    List.mem_flatMap.mp (List.mem_of_mem_filter inFilter)
  have same : isWhitespace other = isWhitespace letter := by
    split at isOther
    · rename_i barred
      rw [← isOther, barred]
      decide
    · rw [isOther]
  rw [same, lawful.within source letter decomposed,
    lowercase.isWhitespace_eq source inPiece]

theorem clean_of_plain {char : Char} (isPlain : char ∈ plainLetters) :
    clean tables [char] = [char] := by
  obtain ⟨decomposes, noMark⟩ := lawful.plain char isPlain
  have notBarred : char ≠ 'đ' := by
    rintro rfl
    revert isPlain
    decide
  simp [clean, decomposes, noMark, notBarred]

/-- The characters of a folded text fold to themselves. -/
theorem clean_stable (lowers : Lowered text lowered) :
    ∀ char ∈ clean tables lowered, isLowercaseAlready char = true ∧
      clean tables [char] = [char] := by
  intro char member
  obtain ⟨other, inFilter, isChar⟩ := List.mem_map.mp member
  obtain ⟨inPieces, noMark⟩ := List.mem_filter.mp inFilter
  obtain ⟨source, inLowered, inPiece⟩ := List.mem_flatMap.mp inPieces
  obtain ⟨already, same⟩ := lawful.decomposed source
    (lowers.already source inLowered) other inPiece
  split at isChar
  · rw [← isChar]
    exact ⟨by decide, clean_of_plain lawful (by decide)⟩
  · rename_i notBarred
    rw [← isChar]
    refine ⟨already, ?_⟩
    simp only [Bool.not_eq_true'] at noMark
    simp [clean, same, noMark, notBarred]

theorem spaces_clean (lowers : Lowered text lowered)
    (areSpaces : ∀ char ∈ text, isWhitespace char = true) :
    ∀ char ∈ clean tables lowered, isWhitespace char = true :=
  (respelled_clean lawful lowers).spaces areSpaces

/-- Folding does not see the whitespace around a text. -/
theorem foldedWords_trimChars (text : List Char) :
    foldedWords tables (trimChars text) = foldedWords tables text := by
  obtain ⟨spaces, others, isText, areSpaces, alsoSpaces⟩ :=
    trimChars_split text
  obtain ⟨lowered, lowers, front⟩ := toLowercaseAfter_append
    tables.endsWord [] spaces (trimChars text ++ others)
  have behind := toLowercaseAfter_append_spaces
    (fun space member => lawful.spaces space (alsoSpaces space member))
    (spaces.reverse ++ []) (trimChars text)
  have between : toLowercaseAfter tables.endsWord (spaces.reverse ++ [])
      (trimChars text) = toLowercase tables.endsWord (trimChars text) := by
    rw [lawful.endsWord]
    refine toLowercaseAfter_congr ?_ _
    rcases spaces.eq_nil_or_concat with rfl | ⟨earlier, space, rfl⟩
    · rfl
    · obtain ⟨notIgnored, notCased⟩ :=
        lawful.spaces space (areSpaces space (by simp))
      rw [List.concat_eq_append, List.reverse_append, List.append_nil]
      exact caseIgnorableThenCased_space notIgnored notCased _
  rw [← lawful.endsWord, between] at behind
  have whole : toLowercase tables.endsWord text = lowered ++
      (toLowercase tables.endsWord (trimChars text) ++
        toLowercaseAfter tables.endsWord
          ((trimChars text).reverse ++ (spaces.reverse ++ [])) others) := by
    rw [← behind, ← front, ← List.append_assoc, ← isText]
    rfl
  rw [foldedWords, foldedWords, stripDiacritics, stripDiacritics]
  change words (clean tables (toLowercase tables.endsWord (trimChars text))) =
    words (clean tables (toLowercase tables.endsWord text))
  rw [whole, clean_append, clean_append, words_around
    (spaces_clean lawful lowers areSpaces)
    (spaces_clean lawful (lowered_toLowercaseAfter _ _ others) alsoSpaces)]

theorem fold_toList (text : String) :
    (fold tables text).toList =
      [' '].intercalate (foldedWords tables text.toList) := by
  rw [fold_eq, foldedWords_trimChars lawful]

/-- Joined words of a folded text fold to themselves. -/
theorem foldedWords_intercalate {pieces : List (List Char)}
    (folded : ∀ piece ∈ pieces, piece ∈ foldedWords tables text) :
    foldedWords tables ([' '].intercalate pieces) = pieces := by
  have stable : ∀ char ∈ [' '].intercalate pieces,
      isLowercaseAlready char = true ∧ clean tables [char] = [char] := by
    intro char member
    rcases mem_intercalate member with rfl | ⟨piece, inPieces, inPiece⟩
    · exact ⟨by decide, clean_of_plain lawful (by decide)⟩
    · refine clean_stable lawful
        (lowered_toLowercase tables.endsWord text) char ?_
      have inWords : char ∈ (foldedWords tables text).flatten :=
        List.mem_flatten.mpr ⟨piece, folded piece inPieces, inPiece⟩
      rw [foldedWords, flatten_words] at inWords
      exact List.mem_of_mem_filter inWords
  have kept (text : List Char)
      (stable : ∀ char ∈ text, clean tables [char] = [char]) :
      clean tables text = text := by
    induction text with
    | nil => rfl
    | cons char rest induction =>
        rw [← List.singleton_append, clean_append,
          stable char List.mem_cons_self, induction fun other inside =>
            stable other (List.mem_cons_of_mem _ inside)]
  have unchanged : stripDiacritics tables ([' '].intercalate pieces) =
      [' '].intercalate pieces := by
    change clean tables (toLowercase tables.endsWord _) = _
    rw [toLowercase_of_already fun char member => (stable char member).1,
      kept _ fun char member => (stable char member).2]
  rw [foldedWords, unchanged]
  exact words_intercalate fun piece member => isWord_of_folded
    (folded piece member)

theorem clean_lowercase_sigma {sigma : Char} {piece : List Char}
    (isSigma : sigma.toNat = 931) (lowercase : IsLowercase sigma piece) :
    ∃ small ∈ [Char.ofNat 963, Char.ofNat 962],
      clean tables piece = [small] := by
  have written : piece = [Char.ofNat 963] ∨ piece = [Char.ofNat 962] := by
    rcases lowercase with rfl | ⟨_, rfl⟩
    · left
      rw [← Char.ofNat_toNat sigma, isSigma]
      decide
    · exact .inr rfl
  rcases written with rfl | rfl
  · exact ⟨Char.ofNat 963, by simp, clean_of_plain lawful (by decide)⟩
  · exact ⟨Char.ofNat 962, by simp, clean_of_plain lawful (by decide)⟩

/-- The capital sigmas of a text are in its folded words. -/
theorem exists_sigma {sigma : Char} (isSigma : sigma.toNat = 931)
    (lowers : Lowered text lowered) (member : sigma ∈ text) :
    ∃ small ∈ [Char.ofNat 963, Char.ofNat 962],
      small ∈ clean tables lowered := by
  induction lowers with
  | nil => contradiction
  | cons head _ induction =>
      rw [clean_append]
      rcases List.mem_cons.mp member with rfl | inRest
      · obtain ⟨small, isSmall, written⟩ :=
          clean_lowercase_sigma lawful isSigma head
        exact ⟨small, isSmall, by simp [written]⟩
      · obtain ⟨small, isSmall, inClean⟩ := induction inRest
        exact ⟨small, isSmall, List.mem_append_right _ inClean⟩

/-- Whitespace depends on the letters of a text, not on their case. -/
theorem map_isWhitespace_clean {other : List Char}
    (lowers : Lowered text lowered) (also : Lowered text other) :
    (clean tables lowered).map isWhitespace =
      (clean tables other).map isWhitespace := by
  induction text generalizing lowered other with
  | nil =>
      cases lowers
      cases also
      rfl
  | cons char rest induction =>
      obtain _ | ⟨head, tail⟩ := lowers
      obtain _ | ⟨head', tail'⟩ := also
      rw [clean_append, clean_append, List.map_append, List.map_append,
        induction tail tail']
      congr 1
      by_cases sigma : char.toNat = 931
      · obtain ⟨small, isSmall, written⟩ :=
          clean_lowercase_sigma lawful sigma head
        obtain ⟨small', isSmall', written'⟩ :=
          clean_lowercase_sigma lawful sigma head'
        rw [written, written', List.map_singleton, List.map_singleton,
          small_isSolid small isSmall, small_isSolid small' isSmall']
      · have same {piece : List Char} (lowercase : IsLowercase char piece) :
            piece = lowercaseChar char :=
          lowercase.resolve_right fun isFinal => sigma isFinal.1
        rw [same head, same head']

/-- A text that folds to spaces in the end does not end in a cased letter. -/
theorem not_cased_of_space {space : Char} {lead : List Char}
    (isSpace : isWhitespace space = true)
    (ends : clean tables (text.flatMap lowercaseChar) = lead ++ [space]) :
    caseIgnorableThenCased isCaseIgnorable isCased text.reverse = false := by
  induction text using List.reverseRecOn generalizing lead with
  | nil => simp [clean] at ends
  | append_singleton earlier char induction =>
      rw [List.flatMap_append, List.flatMap_singleton, clean_append] at ends
      rw [List.reverse_append, List.reverse_singleton, List.singleton_append,
        caseIgnorableThenCased_cons]
      rcases (clean tables (lowercaseChar char)).eq_nil_or_concat with
        vanishes | ⟨others, last, written⟩
      · rw [vanishes, List.append_nil] at ends
        have marks := lawful.marks char (by
          simpa [clean, List.filter_eq_nil_iff] using vanishes)
        split
        · exact induction ends
        · rename_i notIgnored
          exact marks.resolve_left notIgnored
      · rw [List.concat_eq_append] at written
        rw [written, ← List.append_assoc] at ends
        have isLast : last = space := by
          simpa using (List.append_inj' ends rfl).2
        have charIsSpace : isWhitespace char = true := by
          rw [← isWhitespace_clean lawful (.inl rfl) last (by simp [written]),
            isLast, isSpace]
        obtain ⟨notIgnored, notCased⟩ := lawful.spaces char charIsSpace
        rw [if_neg (by simp [notIgnored]), notCased]

/-- What comes before a text that folds to a space first does not matter. -/
theorem clean_of_leading_space {space : Char} {rest : List Char}
    (isSpace : isWhitespace space = true) {before : List Char}
    (begins : clean tables (toLowercaseAfter tables.endsWord before text) =
      space :: rest) (other : List Char) :
    clean tables (toLowercaseAfter tables.endsWord before text) =
      clean tables (toLowercaseAfter tables.endsWord other text) := by
  induction text generalizing before other with
  | nil => simp [toLowercaseAfter, clean] at begins
  | cons char later induction =>
      have lowercase := isLowercase_of_rule tables.endsWord before char later
      rw [toLowercaseAfter, clean_append] at begins
      have notSigma : char.toNat ≠ 931 := by
        intro sigma
        obtain ⟨small, isSmall, written⟩ :=
          clean_lowercase_sigma lawful sigma lowercase
        rw [written, List.singleton_append] at begins
        have solid := small_isSolid small isSmall
        rw [(List.cons.inj begins).1, isSpace] at solid
        cases solid
      rw [toLowercaseAfter, toLowercaseAfter, clean_append, clean_append,
        if_neg fun final => notSigma final.1,
        if_neg fun final => notSigma final.1]
      rw [if_neg fun final => notSigma final.1] at begins
      congr 1
      cases written : clean tables (lowercaseChar char) with
      | nil =>
          rw [written, List.nil_append] at begins
          exact induction begins _
      | cons first others =>
          rw [written, List.cons_append] at begins
          have charIsSpace : isWhitespace char = true := by
            rw [← isWhitespace_clean lawful (.inl rfl) first
              (by simp [written]), (List.cons.inj begins).1, isSpace]
          obtain ⟨notIgnored, notCased⟩ := lawful.spaces char charIsSpace
          rw [lawful.endsWord]
          congr 1
          refine toLowercaseAfter_congr ?_ later
          rw [caseIgnorableThenCased_space notIgnored notCased,
            caseIgnorableThenCased_space notIgnored notCased]

variable {lead value : List (List Char)}

/-- A text that folds to words without sigmas has no capital sigma. -/
theorem plain_of_noSigma
    (noSigma : ∀ small ∈ [Char.ofNat 963, Char.ofNat 962],
      small ∉ lead.flatten)
    (lowers : Lowered front lowered)
    (folds : words (clean tables lowered) = lead) :
    ∀ char ∈ front, char.toNat ≠ 931 := by
  intro sigma member isSigma
  obtain ⟨small, isSmall, inClean⟩ :=
    exists_sigma lawful isSigma lowers member
  refine noSigma small isSmall ?_
  rw [← folds, flatten_words]
  exact List.mem_filter.mpr ⟨inClean, by simp [small_isSolid small isSmall]⟩

/-- Words that are in front of others are not changed by what follows. -/
theorem clean_behind
    (someFront : clean tables (front.flatMap lowercaseChar) ≠ [])
    (someBack : clean tables
      (toLowercaseAfter tables.endsWord front.reverse back) ≠ [])
    (cuts : CutsNoWord (clean tables (front.flatMap lowercaseChar))
      (clean tables
        (toLowercaseAfter tables.endsWord front.reverse back))) :
    clean tables (toLowercaseAfter tables.endsWord front.reverse back) =
      clean tables (toLowercase tables.endsWord back) := by
  rcases cuts with none | none | ⟨text, space, ends, isSpace⟩ |
    ⟨space, text, begins, isSpace⟩
  · exact absurd none someFront
  · exact absurd none someBack
  · rw [toLowercase, lawful.endsWord, toLowercaseAfter_congr]
    rw [not_cased_of_space lawful isSpace ends]
    rfl
  · exact clean_of_leading_space lawful isSpace begins []

/-- Where a text folds to some words and then others, what follows a cut folds
to the other words exactly if what comes before folds to the first ones, if
these are without sigmas. -/
theorem cut_iff
    (folded : foldedWords tables (front ++ back) = lead ++ value)
    (someLead : lead ≠ []) (someValue : value ≠ [])
    (noSigma : ∀ small ∈ [Char.ofNat 963, Char.ofNat 962],
      small ∉ lead.flatten) :
    foldedWords tables back = value ↔ foldedWords tables front = lead := by
  obtain ⟨lowered, lowers, isLowered⟩ :=
    toLowercaseAfter_append tables.endsWord [] front back
  rw [List.append_nil] at isLowered
  have lowersBack := lowered_toLowercaseAfter tables.endsWord front.reverse
    back
  have alone := lowered_toLowercase tables.endsWord back
  have lowersFront := lowered_toLowercase tables.endsWord front
  change words (clean tables (toLowercaseAfter tables.endsWord []
    (front ++ back))) = lead ++ value at folded
  rw [isLowered, clean_append] at folded
  change words (clean tables (toLowercase tables.endsWord back)) = value ↔
    words (clean tables (toLowercase tables.endsWord front)) = lead
  have cases := words_append_cases (clean tables lowered)
    (clean tables (toLowercaseAfter tables.endsWord front.reverse back))
  constructor
  · intro isValue
    have lengths := length_words_congr
      (map_isWhitespace_clean lawful lowersBack alone)
    rw [isValue] at lengths
    have isLead : words (clean tables lowered) = lead := by
      rcases cases with ⟨_, joined⟩ |
        ⟨whole, last, first, others, someLast, _, _, wordsBack, joined⟩
      · rw [joined] at folded
        exact (List.append_inj' folded
          (by simpa using congrArg List.length lengths)).1
      · rw [joined] at folded
        rw [wordsBack] at lengths
        have count : ((last ++ first) :: others).length = value.length := by
          simpa using congrArg List.length lengths
        obtain ⟨_, isValue⟩ := List.append_inj' folded count
        rw [← isValue, List.map_cons, List.map_cons, List.length_append,
          List.cons.injEq] at lengths
        exact absurd (List.length_eq_zero_iff.mp (by omega)) someLast
    have plain := plain_of_noSigma lawful noSigma lowers isLead
    rw [lowersFront.eq_flatMap plain, ← lowers.eq_flatMap plain, isLead]
  · intro isLead
    have plain := plain_of_noSigma lawful noSigma lowersFront isLead
    rw [lowersFront.eq_flatMap plain] at isLead
    rw [lowers.eq_flatMap plain] at folded cases
    rcases cases with ⟨cuts, joined⟩ |
      ⟨whole, last, first, others, _, someFirst, wordsFront, _, joined⟩
    · rw [joined, isLead, List.append_cancel_left_eq] at folded
      rw [← folded, clean_behind lawful ?_ ?_ cuts]
      · intro none
        rw [none] at isLead
        exact someLead isLead.symm
      · intro none
        rw [none] at folded
        exact someValue folded.symm
    · rw [joined, ← isLead, wordsFront, List.append_assoc,
        List.append_cancel_left_eq, List.singleton_append,
        List.cons.injEq] at folded
      exact absurd (by simpa using folded.1) someFirst

end Lawfulness

end Folding

end Conversation

end ZaloBot
