import ZaloBot.UnicodeCase

/-!
# The fields of a folded text

A text that is rewritten letter by letter, with whitespace for whitespace only,
does not get more fields between its whitespace.
-/

namespace ZaloBot

namespace RustText

section Fields

variable {text front back : List Char}

/-- `text.split_whitespace()`. -/
def words (text : List Char) : List (List Char) :=
  (splitChars isWhitespace text).filter (!·.isEmpty)

/-- The fields that do not begin where the text begins. -/
def laterWords (text : List Char) : List (List Char) :=
  (splitChars isWhitespace text).tail.filter (!·.isEmpty)

theorem splitWhitespace_eq (text : String) :
    splitWhitespace text = (words text.toList).map String.ofList :=
  rfl

theorem splitChars_ne_nil (text : List Char) :
    splitChars isWhitespace text ≠ [] := by
  cases text with
  | nil => simp [splitChars]
  | cons char rest =>
      rw [splitChars]
      split
      · simp
      · split <;> simp

theorem words_of_space {char : Char} (space : isWhitespace char = true)
    (rest : List Char) :
    words (char :: rest) = words rest ∧
      laterWords (char :: rest) = words rest := by
  simp [words, laterWords, splitChars, space]

theorem length_words_of_solid {char : Char}
    (solid : isWhitespace char = false) (rest : List Char) :
    (words (char :: rest)).length = (laterWords rest).length + 1 ∧
      laterWords (char :: rest) = laterWords rest := by
  obtain ⟨piece, pieces, split⟩ :=
    List.exists_cons_of_ne_nil (splitChars_ne_nil rest)
  simp [words, laterWords, splitChars, solid, split]

theorem length_laterWords_le (text : List Char) :
    (laterWords text).length ≤ (words text).length ∧
      (words text).length ≤ (laterWords text).length + 1 := by
  obtain ⟨piece, pieces, split⟩ :=
    List.exists_cons_of_ne_nil (splitChars_ne_nil text)
  cases piece <;> simp [words, laterWords, split]

/-- Spaces in front of a text are in no field. -/
theorem words_of_spaces (spaces : ∀ char ∈ front, isWhitespace char = true)
    (nonempty : front ≠ []) (rest : List Char) :
    words (front ++ rest) = words rest ∧
      laterWords (front ++ rest) = words rest := by
  induction front with
  | nil => exact absurd rfl nonempty
  | cons char others ih =>
      have first := words_of_space (spaces char (by simp)) (others ++ rest)
      rcases others with _ | ⟨next, others⟩
      · exact first
      · have later := ih (fun other member => spaces other (by simp [member]))
          (by simp)
        rw [List.cons_append, first.1, first.2]
        exact ⟨later.1, later.1⟩

/-- Letters in front of a text are in one field. -/
theorem length_words_of_solids
    (solids : ∀ char ∈ front, isWhitespace char = false)
    (nonempty : front ≠ []) (rest : List Char) :
    (words (front ++ rest)).length = (laterWords rest).length + 1 ∧
      laterWords (front ++ rest) = laterWords rest := by
  induction front with
  | nil => exact absurd rfl nonempty
  | cons char others ih =>
      have first := length_words_of_solid (solids char (by simp))
        (others ++ rest)
      rcases others with _ | ⟨next, others⟩
      · exact first
      · have later := ih (fun other member => solids other (by simp [member]))
          (by simp)
        rw [List.cons_append, first.1, first.2, later.2]
        exact ⟨rfl, rfl⟩

theorem length_words_append_le (front back : List Char) :
    (words front).length ≤ (words (front ++ back)).length ∧
      (laterWords front).length ≤ (laterWords (front ++ back)).length := by
  induction front with
  | nil => simp [words, laterWords, splitChars]
  | cons char rest ih =>
      rw [List.cons_append]
      cases space : isWhitespace char with
      | true =>
          rw [(words_of_space space _).1, (words_of_space space _).1,
            (words_of_space space _).2, (words_of_space space _).2]
          exact ⟨ih.1, ih.1⟩
      | false =>
          rw [(length_words_of_solid space _).1,
            (length_words_of_solid space _).1,
            (length_words_of_solid space _).2,
            (length_words_of_solid space _).2]
          exact ⟨Nat.succ_le_succ ih.2, ih.2⟩

theorem length_words_trimChars_le (text : List Char) :
    (words (trimChars text)).length ≤ (words text).length := by
  obtain ⟨front, back, isText, spaces, _⟩ := trimChars_split text
  have behind := (length_words_append_le (trimChars text) back).1
  rcases front.eq_nil_or_concat with rfl | ⟨_, _, rfl⟩
  · rw [List.nil_append] at isText
    rwa [← isText] at behind
  · have front := (words_of_spaces spaces (by simp)
      (trimChars text ++ back)).1
    rw [List.append_assoc] at isText
    rwa [← front, ← isText] at behind

theorem length_words_space_le (front back : List Char) :
    (words (front ++ ' ' :: back)).length ≤
        (words front).length + (words back).length ∧
      (laterWords (front ++ ' ' :: back)).length ≤
        (laterWords front).length + (words back).length := by
  induction front with
  | nil =>
      have isSpace : isWhitespace ' ' = true := by decide
      have space := words_of_space isSpace back
      simp [space.1, space.2]
  | cons char rest ih =>
      rw [List.cons_append]
      cases space : isWhitespace char with
      | true =>
          rw [(words_of_space space _).1, (words_of_space space _).1,
            (words_of_space space _).2, (words_of_space space _).2]
          exact ⟨ih.1, ih.1⟩
      | false =>
          rw [(length_words_of_solid space _).1,
            (length_words_of_solid space _).1,
            (length_words_of_solid space _).2,
            (length_words_of_solid space _).2]
          omega

theorem solid_of_mem_splitChars {piece : List Char}
    (member : piece ∈ splitChars isWhitespace text) :
    ∀ char ∈ piece, isWhitespace char = false := by
  induction text generalizing piece with
  | nil => simp_all [splitChars]
  | cons first rest ih =>
      rw [splitChars] at member
      split at member
      · rcases List.mem_cons.mp member with rfl | inRest
        · simp
        · exact ih inRest
      · rename_i solid
        obtain ⟨head, pieces, split⟩ :=
          List.exists_cons_of_ne_nil (splitChars_ne_nil rest)
        rw [split] at member ih
        rcases List.mem_cons.mp member with rfl | inPieces
        · intro char inPiece
          rcases List.mem_cons.mp inPiece with rfl | inHead
          · simpa using solid
          · exact ih (by simp) char inHead
        · exact ih (by simp [inPieces])

/-- Fields joined by spaces are not more fields. -/
theorem length_words_intercalate_le {pieces : List (List Char)}
    (solid : ∀ piece ∈ pieces, ∀ char ∈ piece, isWhitespace char = false) :
    (words ([' '].intercalate pieces)).length ≤ pieces.length := by
  have single (piece : List Char)
      (inside : ∀ char ∈ piece, isWhitespace char = false) :
      (words piece).length ≤ 1 := by
    rcases piece with _ | ⟨first, rest⟩
    · simp [words, splitChars]
    · have counted := (length_words_of_solids inside (by simp) []).1
      rw [List.append_nil] at counted
      simp [counted, laterWords, splitChars]
  induction pieces with
  | nil => simp [words, splitChars]
  | cons piece others ih =>
      have alone := single piece (solid piece (by simp))
      rcases others with _ | ⟨next, others⟩
      · simpa using alone
      · have later := ih fun other member => solid other (by simp [member])
        have joined := (length_words_space_le piece
          ([' '].intercalate (next :: others))).1
        rw [List.intercalate_cons_cons]
        simp only [List.length_cons] at later ⊢
        simp only [List.append_assoc, List.cons_append,
          List.nil_append] at joined ⊢
        omega

end Fields

section Respelling

/-- A text and what its letters are written as, with whitespace for whitespace
only. -/
inductive Respelled : List Char → List Char → Prop where
  | nil : Respelled [] []
  | cons {char : Char} {piece text image : List Char}
      (head : ∀ other ∈ piece, isWhitespace other = isWhitespace char)
      (tail : Respelled text image) :
      Respelled (char :: text) (piece ++ image)

variable {text image : List Char}

theorem Respelled.length_words_le (respelled : Respelled text image) :
    (words image).length ≤ (words text).length ∧
      (laterWords image).length ≤ (laterWords text).length := by
  induction respelled with
  | nil => exact ⟨Nat.le_refl _, Nat.le_refl _⟩
  | @cons char piece text image head _ ih =>
      have bounds := length_laterWords_le image
      have textBounds := length_laterWords_le text
      cases space : isWhitespace char with
      | true =>
          rw [(words_of_space space _).1, (words_of_space space _).2]
          rcases eq_or_ne piece [] with rfl | nonempty
          · rw [List.nil_append]
            omega
          · have spaces := words_of_spaces
              (fun other member => (head other member).trans space) nonempty
              image
            rw [spaces.1, spaces.2]
            exact ⟨ih.1, ih.1⟩
      | false =>
          rw [(length_words_of_solid space _).1,
            (length_words_of_solid space _).2]
          rcases eq_or_ne piece [] with rfl | nonempty
          · rw [List.nil_append]
            omega
          · have solids := length_words_of_solids
              (fun other member => (head other member).trans space) nonempty
              image
            rw [solids.1, solids.2]
            omega

theorem Respelled.spaces (respelled : Respelled text image)
    (areSpaces : ∀ char ∈ text, isWhitespace char = true) :
    ∀ char ∈ image, isWhitespace char = true := by
  induction respelled with
  | nil => exact fun _ none => nomatch none
  | cons head _ ih =>
      intro char member
      rcases List.mem_append.mp member with inPiece | inRest
      · exact (head char inPiece).trans
          (areSpaces _ (List.mem_cons_self ..))
      · exact ih (fun other inText => areSpaces other
          (List.mem_cons_of_mem _ inText)) char inRest

theorem Respelled.flatMap {write : Char → List Char}
    (respelled : Respelled text image)
    (keeps : ∀ char, ∀ other ∈ write char,
      isWhitespace other = isWhitespace char) :
    Respelled text (image.flatMap write) := by
  induction respelled with
  | nil => exact .nil
  | cons head _ ih =>
      rw [List.flatMap_append]
      refine .cons (fun other member => ?_) ih
      obtain ⟨middle, inPiece, written⟩ := List.mem_flatMap.mp member
      exact (keeps middle other written).trans (head middle inPiece)

theorem Respelled.filter (respelled : Respelled text image)
    (keeps : Char → Bool) : Respelled text (image.filter keeps) := by
  induction respelled with
  | nil => exact .nil
  | cons head _ ih =>
      rw [List.filter_append]
      exact .cons (fun other member =>
        head other (List.mem_of_mem_filter member)) ih

theorem Respelled.map {write : Char → Char} (respelled : Respelled text image)
    (keeps : ∀ char, isWhitespace (write char) = isWhitespace char) :
    Respelled text (image.map write) := by
  induction respelled with
  | nil => exact .nil
  | cons head _ ih =>
      rw [List.map_append]
      refine .cons (fun other member => ?_) ih
      obtain ⟨middle, inPiece, rfl⟩ := List.mem_map.mp member
      exact (keeps middle).trans (head middle inPiece)

/-- The code points of whitespace. -/
def whitespaceCodes : List Nat :=
  [9, 10, 11, 12, 13, 0x20, 0x85, 0xA0, 0x1680, 0x2000, 0x2001, 0x2002, 0x2003,
    0x2004, 0x2005, 0x2006, 0x2007, 0x2008, 0x2009, 0x200A, 0x2028, 0x2029,
    0x202F, 0x205F, 0x3000]

theorem isWhitespace_iff {char : Char} :
    isWhitespace char = true ↔ char.toNat ∈ whitespaceCodes := by
  simp only [isWhitespace, whitespaceCodes, Bool.or_eq_true, Bool.and_eq_true,
    decide_eq_true_eq, beq_iff_eq, List.mem_cons, List.not_mem_nil, or_false]
  omega

theorem whitespace_unchanged : ∀ code ∈ whitespaceCodes,
    counterpart lowercaseRuns code = code ∧ preimages lowercaseRuns code = [] ∧
      code ≠ 0 ∧ code ≠ 304 ∧ code ≠ 931 := by
  decide

/-- Lowercase leaves whitespace alone and adds none. -/
theorem IsLowercase.isWhitespace_eq {char : Char} {piece : List Char}
    (lowercase : IsLowercase char piece) :
    ∀ other ∈ piece, isWhitespace other = isWhitespace char := by
  intro other member
  rw [Bool.eq_iff_iff, isWhitespace_iff, isWhitespace_iff]
  rcases lowercase with rfl | ⟨sigma, rfl⟩
  · unfold lowercaseChar at member
    split at member
    · rename_i dotted
      rw [dotted]
      simp only [List.mem_cons, List.not_mem_nil, or_false] at member
      rcases member with rfl | rfl <;> decide
    · rw [List.mem_singleton.mp member]
      constructor
      · intro space
        rcases toNat_ofNat_cases (counterpart lowercaseRuns char.toNat) with
          valid | invalid
        · rw [valid] at space
          obtain ⟨_, none, _⟩ := whitespace_unchanged _ space
          rcases eq_or_mem_preimages rfl with same | preimage
          · rwa [← same] at space
          · simp [none] at preimage
        · rw [invalid] at space
          exact absurd rfl (whitespace_unchanged 0 space).2.2.1
      · intro space
        rwa [(whitespace_unchanged _ space).1, Char.ofNat_toNat]
  · rw [List.mem_singleton.mp member, sigma]
    decide

theorem Lowered.respelled {lowered : List Char}
    (lowers : Lowered text lowered) : Respelled text lowered := by
  induction lowers with
  | nil => exact .nil
  | cons head _ ih => exact .cons head.isWhitespace_eq ih

end Respelling

end RustText

end ZaloBot
