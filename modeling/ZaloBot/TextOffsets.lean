import ZaloBot.RustText

/-!
# Byte offsets in text

Text as a list of characters, cut at offsets that count the bytes of its UTF-8
encoding.  A cut inside a character or behind the end panics, and so does
arithmetic that leaves the range of `i64`.
-/

namespace ZaloBot

namespace RustText

/-- Why a computation panics: a slice that is not on character boundaries, an
index out of range, an overflow, or a recursion too deep. -/
inductive Panic where
  | slice
  | index
  | overflow
  | stack
deriving DecidableEq, Repr

abbrev Checked := Except Panic

/-- `text.len()`. -/
def byteLength (text : List Char) : Nat :=
  (text.map Char.utf8Size).sum

/-- Split a text at a byte offset, if it is on a character boundary. -/
def splitAtByte : List Char → Nat → Option (List Char × List Char)
  | [], offset => if offset = 0 then some ([], []) else none
  | char :: rest, offset =>
      if offset = 0 then
        some ([], char :: rest)
      else if char.utf8Size ≤ offset then
        (splitAtByte rest (offset - char.utf8Size)).map fun parts =>
          (char :: parts.1, parts.2)
      else
        none

/-- `text[..offset]`. -/
def sliceTo (text : List Char) (offset : Nat) : Checked (List Char) :=
  match splitAtByte text offset with
  | none => .error .slice
  | some parts => .ok parts.1

/-- `text[offset..]`. -/
def sliceFrom (text : List Char) (offset : Nat) : Checked (List Char) :=
  match splitAtByte text offset with
  | none => .error .slice
  | some parts => .ok parts.2

/-- `text.find(needle)`. -/
def find (needle : List Char) : List Char → Option Nat
  | [] => if needle.isEmpty then some 0 else none
  | char :: rest =>
      if needle.isPrefixOf (char :: rest) then
        some 0
      else
        (find needle rest).map (· + char.utf8Size)

/-- `text.trim()`. -/
def trimChars (text : List Char) : List Char :=
  (text.dropWhile isWhitespace).rdropWhile isWhitespace

/-- The greatest `i64`. -/
def maxI64 : Int := 9223372036854775807

/-- A number, if it is an `i64`. -/
def asI64 (value : Int) : Checked Int :=
  if -maxI64 - 1 ≤ value ∧ value ≤ maxI64 then
    .ok value
  else
    .error .overflow

/-- A property of the characters of a text is checked on these only. -/
instance (priority := high) decidableForallMem (text : List Char)
    (property : Char → Prop) [DecidablePred property] :
    Decidable (∀ char ∈ text, property char) :=
  List.decidableBAll property text

instance (priority := high) decidableExistsMem (text : List Char)
    (property : Char → Prop) [DecidablePred property] :
    Decidable (∃ char ∈ text, property char) :=
  List.decidableBEx property text

section Checks

variable {Value Other : Type}

theorem ok_bind (value : Value) (rest : Value → Checked Other) :
    (Except.ok value >>= rest) = rest value :=
  rfl

theorem error_bind (panic : Panic) (rest : Value → Checked Other) :
    (Except.error panic >>= rest) = .error panic :=
  rfl

/-- A computation that ends without a panic. -/
def Returns (computation : Checked Value) : Prop :=
  ∃ value, computation = .ok value

theorem returns_ok (value : Value) :
    Returns (Except.ok value : Checked Value) :=
  ⟨value, rfl⟩

theorem not_returns_error (panic : Panic) :
    ¬ Returns (Except.error panic : Checked Value) :=
  nofun

end Checks

section Offsets

variable {text before after needle : List Char} {offset : Nat}

@[simp]
theorem byteLength_nil : byteLength [] = 0 :=
  rfl

@[simp]
theorem byteLength_cons (char : Char) (rest : List Char) :
    byteLength (char :: rest) = char.utf8Size + byteLength rest := by
  simp [byteLength]

@[simp]
theorem byteLength_append (first second : List Char) :
    byteLength (first ++ second) = byteLength first + byteLength second := by
  simp [byteLength]

theorem utf8Size_of_ascii {char : Char} (ascii : char.toNat < 128) :
    char.utf8Size = 1 := by
  have small : char.val ≤ 0x7f := by
    rw [UInt32.le_iff_toNat_le]
    exact Nat.le_of_lt_succ ascii
  simp [Char.utf8Size, small]

theorem byteLength_of_ascii
    (ascii : ∀ char ∈ text, char.toNat < 128) :
    byteLength text = text.length := by
  induction text with
  | nil => rfl
  | cons char rest ih =>
      rw [byteLength_cons, List.length_cons,
        utf8Size_of_ascii (ascii char (by simp)),
        ih fun other member => ascii other (by simp [member]), Nat.add_comm]

theorem byteLength_le_of_inside {piece : List Char} (inside : piece <:+: text) :
    byteLength piece ≤ byteLength text := by
  obtain ⟨front, back, rfl⟩ := inside
  simp only [byteLength_append]
  omega

theorem splitAtByte_append (before after : List Char) :
    splitAtByte (before ++ after) (byteLength before) =
      some (before, after) := by
  induction before with
  | nil =>
      cases after <;> rfl
  | cons char rest ih =>
      have positive := char.utf8Size_pos
      rw [List.cons_append, splitAtByte, byteLength_cons,
        if_neg (by omega), if_pos (by omega), Nat.add_sub_cancel_left, ih]
      rfl

theorem splitAtByte_eq_some_iff :
    splitAtByte text offset = some (before, after) ↔
      text = before ++ after ∧ byteLength before = offset := by
  constructor
  · intro split
    induction text generalizing offset before after with
    | nil =>
        rw [splitAtByte] at split
        split at split
        · cases split
          exact ⟨rfl, by simp [*]⟩
        · nomatch split
    | cons char rest ih =>
        rw [splitAtByte] at split
        split at split
        · cases split
          exact ⟨rfl, by simp [*]⟩
        · split at split
          · obtain ⟨parts, splitRest, isParts⟩ :=
              Option.map_eq_some_iff.mp split
            cases isParts
            obtain ⟨rfl, length⟩ := ih splitRest
            refine ⟨rfl, ?_⟩
            rw [byteLength_cons]
            omega
          · nomatch split
  · rintro ⟨rfl, rfl⟩
    exact splitAtByte_append before after

@[simp]
theorem sliceTo_append (before after : List Char) :
    sliceTo (before ++ after) (byteLength before) = .ok before := by
  rw [sliceTo, splitAtByte_append]

@[simp]
theorem sliceFrom_append (before after : List Char) :
    sliceFrom (before ++ after) (byteLength before) = .ok after := by
  rw [sliceFrom, splitAtByte_append]

theorem splitAtByte_inside {char : Char} {rest : List Char}
    (behind : byteLength before < offset)
    (inside : offset < byteLength before + char.utf8Size) :
    splitAtByte (before ++ char :: rest) offset = none := by
  induction before generalizing offset with
  | nil =>
      rw [byteLength_nil] at behind inside
      rw [List.nil_append, splitAtByte, if_neg (by omega), if_neg (by omega)]
  | cons first others ih =>
      rw [byteLength_cons] at behind inside
      rw [List.cons_append, splitAtByte, if_neg (by omega),
        if_pos (by omega), ih (by omega) (by omega)]
      rfl

/-- A cut inside a character panics. -/
theorem sliceTo_inside {char : Char} {rest : List Char}
    (behind : byteLength before < offset)
    (inside : offset < byteLength before + char.utf8Size) :
    sliceTo (before ++ char :: rest) offset = .error .slice := by
  rw [sliceTo, splitAtByte_inside behind inside]

theorem sliceFrom_eq_ok_iff :
    sliceFrom text offset = .ok after ↔
      ∃ before, text = before ++ after ∧ byteLength before = offset := by
  unfold sliceFrom
  constructor
  · intro slice
    split at slice
    · nomatch slice
    · rename_i parts split
      cases slice
      exact ⟨parts.1, splitAtByte_eq_some_iff.mp split⟩
  · rintro ⟨before, rfl, rfl⟩
    rw [splitAtByte_append]

/-- What is found is where the offset says. -/
theorem find_eq_some (found : find needle text = some offset) :
    ∃ before after, text = before ++ needle ++ after ∧
      byteLength before = offset := by
  induction text generalizing offset with
  | nil =>
      rw [find] at found
      split at found
      · rename_i empty
        cases found
        exact ⟨[], [], by simp [List.isEmpty_iff.mp empty], rfl⟩
      · nomatch found
  | cons char rest ih =>
      rw [find] at found
      split at found
      · rename_i leads
        cases found
        obtain ⟨after, isText⟩ := List.isPrefixOf_iff_prefix.mp leads
        exact ⟨[], after, by simp [isText], rfl⟩
      · obtain ⟨inner, foundRest, rfl⟩ := Option.map_eq_some_iff.mp found
        obtain ⟨before, after, rfl, rfl⟩ := ih foundRest
        exact ⟨char :: before, after, rfl, by
          rw [byteLength_cons, Nat.add_comm]⟩

/-- Nothing is found in a text that lacks a character of the needle. -/
theorem find_eq_none {char : Char} (member : char ∈ needle)
    (absent : char ∉ text) : find needle text = none := by
  cases found : find needle text with
  | none => rfl
  | some offset =>
      obtain ⟨before, after, rfl, _⟩ := find_eq_some found
      exact absurd (by simp [member]) absent

/-- A needle is found where its first character occurs for the first time. -/
theorem find_append {first : Char} (others : List Char)
    (absent : first ∉ before) (after : List Char) :
    find (first :: others) (before ++ (first :: others) ++ after) =
      some (byteLength before) := by
  induction before with
  | nil =>
      rw [List.nil_append, List.cons_append, find, if_pos]
      · rfl
      · rw [List.isPrefixOf_iff_prefix, ← List.cons_append]
        exact List.prefix_append _ _
  | cons char rest ih =>
      rw [List.mem_cons, not_or] at absent
      rw [List.cons_append, List.cons_append, find, if_neg, ih absent.2,
        byteLength_cons]
      · simp [Nat.add_comm]
      · simp [List.isPrefixOf, absent.1]

end Offsets

section Trimming

variable {text : List Char}

theorem trimChars_inside (text : List Char) : trimChars text <:+: text :=
  (List.rdropWhile_prefix ..).isInfix.trans
    (List.dropWhile_suffix ..).isInfix

theorem mem_dropWhile {char : Char} {drops : Char → Bool}
    (member : char ∈ text) (kept : drops char = false) :
    char ∈ text.dropWhile drops := by
  induction text with
  | nil => simp at member
  | cons first rest ih =>
      rw [List.dropWhile_cons]
      split
      · rename_i dropped
        rcases List.mem_cons.mp member with rfl | inRest
        · simp [kept] at dropped
        · exact ih inRest
      · exact member

theorem mem_trimChars {char : Char} (member : char ∈ text)
    (solid : isWhitespace char = false) : char ∈ trimChars text := by
  have inFront := mem_dropWhile member solid
  rw [trimChars, List.rdropWhile, List.mem_reverse]
  exact mem_dropWhile (List.mem_reverse.mpr inFront) solid

/-- Text is its trimmed form with whitespace around it. -/
theorem trimChars_split (text : List Char) :
    ∃ front back, text = front ++ trimChars text ++ back ∧
      (∀ char ∈ front, isWhitespace char = true) ∧
      ∀ char ∈ back, isWhitespace char = true := by
  refine ⟨text.takeWhile isWhitespace,
    (text.dropWhile isWhitespace).rtakeWhile isWhitespace, ?_,
    fun char member => List.mem_takeWhile_imp member,
    fun char member => List.mem_rtakeWhile_imp member⟩
  rw [trimChars, List.append_assoc, List.rdropWhile_append_rtakeWhile,
    List.takeWhile_append_dropWhile]

theorem trim_eq_ofList (text : String) :
    trim text = String.ofList (trimChars text.toList) :=
  rfl

/-- Text whose first and last characters are not dropped. -/
theorem dropEnds_eq_self {drops : Char → Bool}
    (front : ∀ char ∈ text.head?, drops char = false)
    (back : ∀ char ∈ text.getLast?, drops char = false) :
    (text.dropWhile drops).rdropWhile drops = text := by
  have keptFront : text.dropWhile drops = text := by
    cases text with
    | nil => rfl
    | cons char rest =>
        exact List.dropWhile_cons_of_neg (by simp [front char rfl])
  rw [keptFront, List.rdropWhile_eq_self_iff]
  intro nonempty
  simp [back _ (List.getLast?_eq_getLast_of_ne_nil nonempty)]

/-- Text whose first and last characters are not whitespace. -/
theorem trimChars_eq_self
    (front : ∀ char ∈ text.head?, isWhitespace char = false)
    (back : ∀ char ∈ text.getLast?, isWhitespace char = false) :
    trimChars text = text :=
  dropEnds_eq_self front back

theorem trimChars_of_solid
    (solid : ∀ char ∈ text, isWhitespace char = false) :
    trimChars text = text :=
  trimChars_eq_self (fun char member => solid char (List.mem_of_head? member))
    (fun char member => solid char (List.mem_of_getLast? member))

/-- A space behind text without whitespace. -/
theorem trimChars_concat {space : Char} (isSpace : isWhitespace space = true)
    (solid : ∀ char ∈ text, isWhitespace char = false) :
    trimChars (text ++ [space]) = text := by
  have kept := trimChars_of_solid solid
  cases text with
  | nil => simp [trimChars, List.dropWhile, isSpace]
  | cons first rest =>
      have front : isWhitespace first = false := solid first (by simp)
      rw [trimChars, List.dropWhile_cons_of_neg (by simp [front])] at kept
      rw [trimChars, List.cons_append,
        List.dropWhile_cons_of_neg (by simp [front]), ← List.cons_append,
        List.rdropWhile_concat_pos _ _ _ isSpace, kept]

theorem trimChars_front :
    ∀ char ∈ (trimChars text).head?, isWhitespace char = false := by
  intro char member
  have inFront : (text.dropWhile isWhitespace).head? = some char := by
    obtain ⟨back, isFront⟩ :=
      List.rdropWhile_prefix isWhitespace (text.dropWhile isWhitespace)
    rw [← isFront, List.head?_append, ← trimChars, member]
    rfl
  simpa [inFront] using List.head?_dropWhile_not isWhitespace text

theorem trimChars_back :
    ∀ char ∈ (trimChars text).getLast?, isWhitespace char = false := by
  intro char member
  have nonempty : trimChars text ≠ [] := by
    rintro none
    simp [none] at member
  have kept := List.rdropWhile_last_not isWhitespace
    (text.dropWhile isWhitespace) nonempty
  rw [List.getLast?_eq_getLast_of_ne_nil nonempty] at member
  cases member
  exact Bool.eq_false_iff.mpr kept

/-- Trimming is done at once. -/
theorem trimChars_trimChars (text : List Char) :
    trimChars (trimChars text) = trimChars text :=
  trimChars_eq_self trimChars_front trimChars_back

end Trimming

end RustText

end ZaloBot
