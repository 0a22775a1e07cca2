import ZaloBot.FoldedFields
import ZaloBot.TextOffsets

/-!
# Texts cut at a word

The words of two texts in a row are the words of each, unless the cut is inside
a word.  Lowercase looks beyond a cut for capital sigmas only, and no further
than to the next word.
-/

namespace ZaloBot

namespace RustText

section Words

variable {front back : List Char}

theorem splitChars_append (front back : List Char) :
    ∃ whole last first others,
      splitChars isWhitespace front = whole ++ [last] ∧
      splitChars isWhitespace back = first :: others ∧
      splitChars isWhitespace (front ++ back) =
        whole ++ (last ++ first) :: others := by
  induction front with
  | nil =>
      obtain ⟨first, others, split⟩ :=
        List.exists_cons_of_ne_nil (splitChars_ne_nil back)
      exact ⟨[], [], first, others, rfl, split, split⟩
  | cons char rest induction =>
      obtain ⟨whole, last, first, others, splitRest, splitBack, split⟩ :=
        induction
      rw [List.cons_append, splitChars, splitChars, splitRest, split]
      cases isWhitespace char with
      | true => exact ⟨[] :: whole, last, first, others, rfl, splitBack, rfl⟩
      | false =>
          cases whole with
          | nil => exact ⟨[], char :: last, first, others, rfl, splitBack, rfl⟩
          | cons head whole =>
              exact ⟨(char :: head) :: whole, last, first, others, rfl,
                splitBack, rfl⟩

/-- The cut between two texts is not inside a word. -/
def CutsNoWord (front back : List Char) : Prop :=
  front = [] ∨ back = [] ∨
    (∃ text space, front = text ++ [space] ∧ isWhitespace space = true) ∨
    ∃ space text, back = space :: text ∧ isWhitespace space = true

/-- The words on both sides of a cut. -/
theorem words_append_cases (front back : List Char) :
    (CutsNoWord front back ∧
      words (front ++ back) = words front ++ words back) ∨
    ∃ whole last first others, last ≠ [] ∧ first ≠ [] ∧
      words front = whole ++ [last] ∧ words back = first :: others ∧
      words (front ++ back) = whole ++ (last ++ first) :: others := by
  obtain ⟨whole, last, first, others, splitFront, splitBack, split⟩ :=
    splitChars_append front back
  rcases eq_or_ne last [] with rfl | solidLast
  · refine .inl ⟨?_, by simp [words, splitFront, splitBack, split]⟩
    rcases front.eq_nil_or_concat with rfl | ⟨text, space, rfl⟩
    · exact .inl rfl
    rw [List.concat_eq_append] at splitFront
    refine .inr (.inr (.inl ⟨text, space, List.concat_eq_append .., ?_⟩))
    by_contra solid
    obtain ⟨_, ending, piece, pieces, _, alone, together⟩ :=
      splitChars_append text [space]
    rw [splitChars, if_neg solid] at alone
    cases alone
    rw [together] at splitFront
    have same := (List.append_inj' splitFront rfl).2
    simp at same
  rcases eq_or_ne first [] with rfl | solidFirst
  · refine .inl ⟨?_, ?_⟩
    swap
    · simp only [words, splitFront, splitBack, split, List.append_nil]
      rw [← List.filter_append, List.append_assoc]
      simp [List.filter_cons]
    cases back with
    | nil => exact .inr (.inl rfl)
    | cons space text =>
        refine .inr (.inr (.inr ⟨space, text, rfl, ?_⟩))
        by_contra solid
        obtain ⟨piece, pieces, splitText⟩ :=
          List.exists_cons_of_ne_nil (splitChars_ne_nil text)
        rw [splitChars, if_neg solid, splitText] at splitBack
        cases splitBack
  · refine .inr ⟨whole.filter (!·.isEmpty), last, first,
      others.filter (!·.isEmpty), solidLast, solidFirst, ?_, ?_, ?_⟩
    · simp [words, splitFront, solidLast]
    · simp [words, splitBack, solidFirst]
    · simp [words, split, solidLast]

/-- Words in front of which there is a space. -/
theorem words_append_space {space : Char} (isSpace : isWhitespace space = true)
    (front back : List Char) :
    words (front ++ space :: back) = words front ++ words back := by
  obtain ⟨whole, last, first, others, splitFront, splitBack, split⟩ :=
    splitChars_append front (space :: back)
  rw [splitChars, if_pos isSpace] at splitBack
  cases splitBack
  simp only [words, splitFront, split, List.append_nil]
  rw [← List.filter_append, List.append_assoc, List.singleton_append]

/-- A nonempty text without whitespace. -/
def IsWord (piece : List Char) : Prop :=
  piece ≠ [] ∧ ∀ char ∈ piece, isWhitespace char = false

theorem isWord_of_mem {text piece : List Char} (member : piece ∈ words text) :
    IsWord piece := by
  obtain ⟨inSplit, nonempty⟩ := List.mem_filter.mp member
  exact ⟨by simpa using nonempty, solid_of_mem_splitChars inSplit⟩

theorem splitChars_of_solid {text : List Char}
    (solid : ∀ char ∈ text, isWhitespace char = false) :
    splitChars isWhitespace text = [text] := by
  induction text with
  | nil => rfl
  | cons char rest induction =>
      have first := solid char List.mem_cons_self
      have later := induction fun other member =>
        solid other (List.mem_cons_of_mem _ member)
      simp [splitChars, first, later]

theorem words_of_isWord {piece : List Char} (isWord : IsWord piece) :
    words piece = [piece] := by
  simp [words, splitChars_of_solid isWord.2, isWord.1]

variable {pieces : List (List Char)}

/-- The words of joined words. -/
theorem words_intercalate (areWords : ∀ piece ∈ pieces, IsWord piece) :
    words ([' '].intercalate pieces) = pieces := by
  induction pieces with
  | nil => rfl
  | cons piece others induction =>
      have first := words_of_isWord (areWords piece List.mem_cons_self)
      have later := induction fun other member =>
        areWords other (List.mem_cons_of_mem _ member)
      cases others with
      | nil => simpa using first
      | cons next others =>
          rw [List.intercalate_cons_cons, List.append_assoc,
            List.singleton_append, words_append_space (by decide), first,
            later, List.singleton_append]

/-- A space in joined words is between two of them. -/
theorem intercalate_split (areWords : ∀ piece ∈ pieces, IsWord piece)
    (cut : [' '].intercalate pieces = front ++ ' ' :: back) :
    ∃ earlier later, pieces = earlier ++ later ∧ earlier ≠ [] ∧ later ≠ [] ∧
      front = [' '].intercalate earlier ∧ back = [' '].intercalate later := by
  have noSpace (piece : List Char) (member : piece ∈ pieces) :
      ' ' ∉ piece := fun inside => by
    have solid := (areWords piece member).2 ' ' inside
    simp [isWhitespace] at solid
  induction pieces generalizing front with
  | nil => simp at cut
  | cons piece others induction =>
      have noneInside := noSpace piece List.mem_cons_self
      cases others with
      | nil =>
          rw [List.intercalate_singleton] at cut
          simp [cut] at noneInside
      | cons next others =>
          rw [List.intercalate_cons_cons, List.append_assoc,
            List.singleton_append] at cut
          rcases List.append_eq_append_iff.mp cut with
            ⟨middle, rfl, isRest⟩ | ⟨middle, isPiece, isRest⟩
          · cases middle with
            | nil =>
                refine ⟨[piece], next :: others, rfl, by simp, by simp,
                  by simp, ?_⟩
                simpa using isRest.symm
            | cons space middle =>
                obtain ⟨rfl, isLater⟩ := List.cons.inj isRest
                obtain ⟨earlier, later, split, some, more, rfl, rfl⟩ :=
                  induction (fun other member =>
                    areWords other (List.mem_cons_of_mem _ member)) isLater
                    fun other member =>
                      noSpace other (List.mem_cons_of_mem _ member)
                refine ⟨piece :: earlier, later, by rw [split]; rfl,
                  by simp, more, ?_, rfl⟩
                obtain ⟨head, tail, rfl⟩ := List.exists_cons_of_ne_nil some
                rw [List.intercalate_cons_cons, List.append_assoc,
                  List.singleton_append]
          · cases middle with
            | nil =>
                refine ⟨[piece], next :: others, rfl, by simp, by simp, ?_, ?_⟩
                · simpa using isPiece.symm
                · simpa using isRest
            | cons space middle =>
                obtain ⟨rfl, _⟩ := List.cons.inj isRest
                simp [isPiece] at noneInside

theorem mem_intercalate_of_mem {piece : List Char} {char : Char}
    (member : piece ∈ pieces) (inside : char ∈ piece) :
    char ∈ [' '].intercalate pieces := by
  induction pieces with
  | nil => contradiction
  | cons first others induction =>
      cases others with
      | nil =>
          rw [List.intercalate_singleton]
          rwa [List.mem_singleton.mp member] at inside
      | cons next others =>
          rw [List.intercalate_cons_cons, List.mem_append, List.mem_append]
          rcases List.mem_cons.mp member with rfl | later
          · exact .inl (.inl inside)
          · exact .inr (induction later)

theorem intercalate_append {earlier later : List (List Char)}
    (someEarlier : earlier ≠ []) (someLater : later ≠ []) :
    [' '].intercalate (earlier ++ later) =
      [' '].intercalate earlier ++ ' ' :: [' '].intercalate later := by
  induction earlier with
  | nil => contradiction
  | cons piece others induction =>
      cases others with
      | nil =>
          obtain ⟨next, more, rfl⟩ := List.exists_cons_of_ne_nil someLater
          simp [List.intercalate_cons_cons]
      | cons next others =>
          rw [List.cons_append, List.cons_append, List.intercalate_cons_cons,
            ← List.cons_append, induction (by simp),
            List.intercalate_cons_cons]
          simp only [List.append_assoc]

theorem intercalate_inj {others : List (List Char)}
    (areWords : ∀ piece ∈ pieces, IsWord piece)
    (alsoWords : ∀ piece ∈ others, IsWord piece) :
    [' '].intercalate pieces = [' '].intercalate others ↔
      pieces = others := by
  refine ⟨fun same => ?_, congrArg _⟩
  rw [← words_intercalate areWords, same, words_intercalate alsoWords]

theorem mem_intercalate {char : Char}
    (member : char ∈ [' '].intercalate pieces) :
    char = ' ' ∨ ∃ piece ∈ pieces, char ∈ piece := by
  induction pieces with
  | nil => simp at member
  | cons piece others induction =>
      cases others with
      | nil =>
          rw [List.intercalate_singleton] at member
          exact .inr ⟨piece, List.mem_cons_self, member⟩
      | cons next others =>
          rw [List.intercalate_cons_cons, List.mem_append,
            List.mem_append] at member
          rcases member with (inPiece | isSpace) | inOthers
          · exact .inr ⟨piece, List.mem_cons_self, inPiece⟩
          · exact .inl (List.mem_singleton.mp isSpace)
          · refine (induction inOthers).imp_right ?_
            rintro ⟨other, inside, inOther⟩
            exact ⟨other, List.mem_cons_of_mem _ inside, inOther⟩

theorem intercalate_concat (piece : List Char) (others : List (List Char)) :
    ∃ lead, [' '].intercalate (others ++ [piece]) = lead ++ piece := by
  induction others with
  | nil => exact ⟨[], by simp⟩
  | cons first rest induction =>
      obtain ⟨lead, joined⟩ := induction
      obtain ⟨next, more, isRest⟩ := List.exists_cons_of_ne_nil
        (List.append_ne_nil_of_right_ne_nil rest (List.cons_ne_nil piece []))
      rw [isRest] at joined
      rw [List.cons_append, isRest, List.intercalate_cons_cons, joined]
      exact ⟨first ++ [' '] ++ lead, by simp⟩

theorem trimChars_intercalate (areWords : ∀ piece ∈ pieces, IsWord piece) :
    trimChars ([' '].intercalate pieces) = [' '].intercalate pieces := by
  refine trimChars_eq_self ?_ ?_
  · intro char member
    cases pieces with
    | nil => simp at member
    | cons piece others =>
        obtain ⟨nonempty, solid⟩ := areWords piece List.mem_cons_self
        obtain ⟨first, rest, rfl⟩ := List.exists_cons_of_ne_nil nonempty
        have isFirst : first = char := by
          cases others with
          | nil => simpa using member
          | cons next others => simpa using member
        exact isFirst ▸ solid first List.mem_cons_self
  · intro char member
    rcases pieces.eq_nil_or_concat with rfl | ⟨others, piece, rfl⟩
    · simp at member
    · rw [List.concat_eq_append] at member areWords
      obtain ⟨nonempty, solid⟩ := areWords piece (by simp)
      obtain ⟨lead, joined⟩ := intercalate_concat piece others
      rw [joined, List.getLast?_append_of_ne_nil _ nonempty] at member
      exact solid char (List.mem_of_getLast? member)

/-- The letters of a text are those of its words. -/
theorem flatten_words (text : List Char) :
    (words text).flatten = text.filter (!isWhitespace ·) := by
  rw [words, List.flatten_filter_not_isEmpty]
  induction text with
  | nil => rfl
  | cons char rest induction =>
      obtain ⟨piece, pieces, split⟩ :=
        List.exists_cons_of_ne_nil (splitChars_ne_nil rest)
      rw [split] at induction
      cases space : isWhitespace char with
      | true => simpa [splitChars, space, split] using induction
      | false => simpa [splitChars, space, split] using induction

/-- Spaces around a text are in no word. -/
theorem words_of_all_spaces {spaces : List Char}
    (areSpaces : ∀ char ∈ spaces, isWhitespace char = true) :
    words spaces = [] := by
  rcases eq_or_ne spaces [] with rfl | nonempty
  · rfl
  · have none := (words_of_spaces areSpaces nonempty []).1
    rwa [List.append_nil] at none

theorem words_around {spaces others : List Char}
    (areSpaces : ∀ char ∈ spaces, isWhitespace char = true)
    (alsoSpaces : ∀ char ∈ others, isWhitespace char = true)
    (text : List Char) : words (spaces ++ (text ++ others)) = words text := by
  have behind : words (text ++ others) = words text := by
    cases others with
    | nil => rw [List.append_nil]
    | cons space others =>
        rw [words_append_space (alsoSpaces space List.mem_cons_self),
          words_of_all_spaces fun char member =>
            alsoSpaces char (List.mem_cons_of_mem _ member), List.append_nil]
  rcases eq_or_ne spaces [] with rfl | nonempty
  · rw [List.nil_append, behind]
  · rw [(words_of_spaces areSpaces nonempty _).1, behind]

/-- The lengths of words depend on the spaces between them only. -/
theorem length_words_congr {text other : List Char}
    (same : text.map isWhitespace = other.map isWhitespace) :
    (words text).map List.length = (words other).map List.length := by
  have pieces : (splitChars isWhitespace text).map List.length =
      (splitChars isWhitespace other).map List.length := by
    induction text generalizing other with
    | nil =>
        obtain rfl : other = [] := by simpa using same.symm
        rfl
    | cons char rest induction =>
        obtain ⟨char', rest', rfl⟩ : ∃ char' rest', other = char' :: rest' := by
          cases other with
          | nil => simp at same
          | cons char' rest' => exact ⟨char', rest', rfl⟩
        rw [List.map_cons, List.map_cons, List.cons.injEq] at same
        have later := induction same.2
        obtain ⟨piece, pieces, split⟩ :=
          List.exists_cons_of_ne_nil (splitChars_ne_nil rest)
        obtain ⟨piece', pieces', split'⟩ :=
          List.exists_cons_of_ne_nil (splitChars_ne_nil rest')
        rw [split, split'] at later
        cases space : isWhitespace char with
        | true =>
            have space' : isWhitespace char' = true := same.1 ▸ space
            simpa [splitChars, space, space', split, split'] using later
        | false =>
            have space' : isWhitespace char' = false := same.1 ▸ space
            simpa [splitChars, space, space', split, split'] using later
  have lengths (found : List (List Char)) :
      (found.filter (!·.isEmpty)).map List.length =
        (found.map List.length).filter (· != 0) := by
    rw [List.filter_map]
    congr 1
    refine List.filter_congr fun piece _ => ?_
    cases piece <;> rfl
  rw [words, words, lengths, lengths, pieces]

end Words

section Sigmas

variable {before text : List Char}

theorem toLowercaseAfter_append (endsWord : SigmaRule)
    (before front back : List Char) :
    ∃ lowered, Lowered front lowered ∧
      toLowercaseAfter endsWord before (front ++ back) =
        lowered ++ toLowercaseAfter endsWord (front.reverse ++ before) back := by
  induction front generalizing before with
  | nil => exact ⟨[], .nil, rfl⟩
  | cons char rest induction =>
      obtain ⟨lowered, lowers, isLowered⟩ := induction (char :: before)
      refine ⟨_, .cons (isLowercase_of_rule endsWord before char (rest ++ back))
        lowers, ?_⟩
      rw [List.cons_append, toLowercaseAfter, isLowered, List.append_assoc,
        List.reverse_cons, List.append_assoc]
      rfl

/-- Texts without a capital sigma are written letter by letter. -/
theorem Lowered.eq_flatMap {lowered : List Char} (lowers : Lowered text lowered)
    (plain : ∀ char ∈ text, char.toNat ≠ 931) :
    lowered = text.flatMap lowercaseChar := by
  induction lowers with
  | nil => rfl
  | cons head _ induction =>
      rw [List.flatMap_cons, ← induction fun char member =>
        plain char (List.mem_cons_of_mem _ member)]
      rcases head with rfl | ⟨sigma, _⟩
      · rfl
      · exact absurd sigma (plain _ List.mem_cons_self)

variable {isCaseIgnorable isCased : Char → Bool}

/-- Whether a cased letter comes first, apart from characters that case
ignores. -/
def caseIgnorableThenCased (isCaseIgnorable isCased : Char → Bool)
    (text : List Char) : Bool :=
  (text.dropWhile isCaseIgnorable).head?.any isCased

/-- A capital sigma ends a word behind a cased letter, unless it is in front of
one. -/
def finalSigma (isCaseIgnorable isCased : Char → Bool) : SigmaRule :=
  fun before after =>
    caseIgnorableThenCased isCaseIgnorable isCased before &&
      !caseIgnorableThenCased isCaseIgnorable isCased after

theorem caseIgnorableThenCased_cons (char : Char) (rest : List Char) :
    caseIgnorableThenCased isCaseIgnorable isCased (char :: rest) =
      if isCaseIgnorable char then
        caseIgnorableThenCased isCaseIgnorable isCased rest
      else
        isCased char := by
  unfold caseIgnorableThenCased
  rw [List.dropWhile_cons]
  split <;> rfl

/-- What comes before a text matters only as far as it ends in a cased
letter. -/
theorem toLowercaseAfter_congr {other : List Char}
    (same : caseIgnorableThenCased isCaseIgnorable isCased before =
      caseIgnorableThenCased isCaseIgnorable isCased other)
    (text : List Char) :
    toLowercaseAfter (finalSigma isCaseIgnorable isCased) before text =
      toLowercaseAfter (finalSigma isCaseIgnorable isCased) other text := by
  induction text generalizing before other with
  | nil => rfl
  | cons char rest induction =>
      rw [toLowercaseAfter, toLowercaseAfter, finalSigma, finalSigma, same]
      refine congrArg _ (induction ?_)
      rw [caseIgnorableThenCased_cons, caseIgnorableThenCased_cons, same]

/-- Nothing is cased or ignored about spaces. -/
theorem caseIgnorableThenCased_space {space : Char}
    (notIgnored : isCaseIgnorable space = false)
    (notCased : isCased space = false) (text : List Char) :
    caseIgnorableThenCased isCaseIgnorable isCased (space :: text) = false := by
  rw [caseIgnorableThenCased_cons, notIgnored, notCased]
  rfl

theorem caseIgnorableThenCased_append_spaces {spaces : List Char}
    (plain : ∀ space ∈ spaces,
      isCaseIgnorable space = false ∧ isCased space = false)
    (text : List Char) :
    caseIgnorableThenCased isCaseIgnorable isCased (text ++ spaces) =
      caseIgnorableThenCased isCaseIgnorable isCased text := by
  induction text with
  | nil =>
      cases spaces with
      | nil => rfl
      | cons space others =>
          obtain ⟨notIgnored, notCased⟩ := plain space List.mem_cons_self
          exact caseIgnorableThenCased_space notIgnored notCased others
  | cons char rest induction =>
      rw [List.cons_append, caseIgnorableThenCased_cons,
        caseIgnorableThenCased_cons, induction]

/-- Spaces behind a text do not change its lowercase. -/
theorem toLowercaseAfter_append_spaces {spaces : List Char}
    (plain : ∀ space ∈ spaces,
      isCaseIgnorable space = false ∧ isCased space = false)
    (before text : List Char) :
    toLowercaseAfter (finalSigma isCaseIgnorable isCased) before
        (text ++ spaces) =
      toLowercaseAfter (finalSigma isCaseIgnorable isCased) before text ++
        toLowercaseAfter (finalSigma isCaseIgnorable isCased)
          (text.reverse ++ before) spaces := by
  induction text generalizing before with
  | nil => rfl
  | cons char rest induction =>
      rw [List.cons_append, toLowercaseAfter, toLowercaseAfter, induction,
        List.append_assoc, List.reverse_cons, List.append_assoc]
      simp only [finalSigma, caseIgnorableThenCased_append_spaces plain]
      rfl

end Sigmas

end RustText

end ZaloBot
