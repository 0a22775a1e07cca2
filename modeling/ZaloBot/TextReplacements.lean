import Mathlib.Data.List.Infix
import ZaloBot.RustText

/-!
# Replacing occurrences by a marker

A marker that a needle neither contains nor begins inside of keeps the text on
its sides apart.  Replacing such needles one after another by the marker
therefore removes each of them, never makes an occurrence of another one, and
leaves everything else of the text in order.
-/

namespace ZaloBot

namespace RustText

section Replacing

variable {needle marker text image : List Char}

/-- A text and its image under a replacement from left to right. -/
inductive Replaced (needle marker : List Char) :
    List Char → List Char → Prop where
  | nil : Replaced needle marker [] []
  | here {text image : List Char} (rest : Replaced needle marker text image) :
      Replaced needle marker (needle ++ text) (marker ++ image)
  | step {char : Char} {text image : List Char}
      (differs : ¬ needle <+: char :: text)
      (rest : Replaced needle marker text image) :
      Replaced needle marker (char :: text) (char :: image)

theorem replaceChars_skip (skipped rest : List Char) :
    replaceChars needle marker skipped.length (skipped ++ rest) =
      replaceChars needle marker 0 rest := by
  induction skipped with
  | nil => rfl
  | cons char skipped induction => exact induction

/-- `replace` replaces from left to right. -/
theorem replaced_replaceChars (nonempty : needle ≠ []) (text : List Char) :
    Replaced needle marker text (replaceChars needle marker 0 text) := by
  induction length : text.length using Nat.strong_induction_on
    generalizing text with
  | _ length induction =>
      cases text with
      | nil => exact .nil
      | cons char rest =>
          rw [replaceChars]
          split
          · rename_i leads
            obtain ⟨behind, isText⟩ := List.isPrefixOf_iff_prefix.mp leads
            obtain ⟨first, others, rfl⟩ := List.exists_cons_of_ne_nil nonempty
            obtain ⟨_, isRest⟩ := List.cons.inj isText
            have skipped : replaceChars (first :: others) marker
                ((first :: others).length - 1) rest =
                  replaceChars (first :: others) marker 0 behind := by
              rw [← isRest]
              exact replaceChars_skip others behind
            rw [skipped, ← isText]
            refine .here (induction behind.length ?_ behind rfl)
            rw [← length, ← isText, List.length_append, List.length_cons]
            omega
          · rename_i differs
            rw [List.isPrefixOf_iff_prefix] at differs
            exact .step differs
              (induction rest.length (by simp [← length]) rest rfl)

theorem contains_iff (text needle : String) :
    contains text needle = true ↔ needle.toList <:+: text.toList := by
  simp only [contains, List.any_eq_true, List.mem_tails,
    List.isPrefixOf_iff_prefix, List.infix_iff_prefix_suffix]
  exact exists_congr fun rest => and_comm

theorem replaceChars_single (char : Char) (text : List Char) :
    replaceChars [char] marker 0 text =
      text.flatMap fun other => if other = char then marker else [other] := by
  induction text with
  | nil => rfl
  | cons other rest induction =>
      rw [List.flatMap_cons, ← induction, replaceChars]
      by_cases same : other = char
      · simp [same]
      · simp [same, Ne.symm same]

/-- A needle that does not begin inside of a marker and does not contain the
beginning of one. -/
structure StandsApart (marker needle : List Char) : Prop where
  nonempty : needle ≠ []
  outside : ∀ char ∈ needle.head?, char ∉ marker
  without : ∀ char ∈ marker.head?, char ∉ needle

variable {other : List Char}

/-- What begins in a marked text without the beginning of a marker begins in the
text. -/
theorem Replaced.prefix_inv (replaced : Replaced needle marker text image)
    (someMarker : marker ≠ [])
    (without : ∀ char ∈ marker.head?, char ∉ other)
    (leads : other <+: image) : other <+: text := by
  obtain ⟨mark, others, rfl⟩ := List.exists_cons_of_ne_nil someMarker
  induction replaced generalizing other with
  | nil => exact leads
  | here rest induction =>
      cases other with
      | nil => exact List.nil_prefix
      | cons first later =>
          obtain ⟨rfl, _⟩ := List.cons_prefix_cons.mp leads
          exact absurd List.mem_cons_self (without first rfl)
  | step differs rest induction =>
      cases other with
      | nil => exact List.nil_prefix
      | cons first later =>
          obtain ⟨rfl, continues⟩ := List.cons_prefix_cons.mp leads
          refine List.cons_prefix_cons.mpr ⟨rfl, induction continues ?_⟩
          exact fun char member inLater =>
            without char member (List.mem_cons_of_mem _ inLater)

/-- What occurs in a text with a marker in front occurs behind the marker. -/
theorem StandsApart.infix_append (apart : StandsApart marker other)
    {lead : List Char} (inside : lead ⊆ marker)
    (occurs : other <:+: lead ++ text) : other <:+: text := by
  induction lead with
  | nil => exact occurs
  | cons char rest induction =>
      rcases List.infix_cons_iff.mp occurs with leads | later
      · obtain ⟨first, others, rfl⟩ :=
          List.exists_cons_of_ne_nil apart.nonempty
        obtain ⟨rfl, _⟩ := List.cons_prefix_cons.mp leads
        exact absurd (inside List.mem_cons_self) (apart.outside first rfl)
      · exact induction (fun char member =>
          inside (List.mem_cons_of_mem _ member)) later

/-- No needle that stands apart begins to occur. -/
theorem Replaced.infix_inv (replaced : Replaced needle marker text image)
    (someMarker : marker ≠ []) (apart : StandsApart marker other)
    (occurs : other <:+: image) : other <:+: text := by
  induction replaced with
  | nil => exact occurs
  | here rest induction =>
      exact (induction (apart.infix_append (List.Subset.refl _) occurs)).trans
        (List.suffix_append _ _).isInfix
  | step differs rest induction =>
      rcases List.infix_cons_iff.mp occurs with leads | later
      · exact ((Replaced.step differs rest).prefix_inv someMarker
          apart.without leads).isInfix
      · exact List.infix_cons (induction later)

/-- What is replaced does not occur any more. -/
theorem Replaced.absent (replaced : Replaced needle marker text image)
    (someMarker : marker ≠ []) (apart : StandsApart marker needle) :
    ¬ needle <:+: image := by
  induction replaced with
  | nil => exact fun occurs => apart.nonempty (List.infix_nil.mp occurs)
  | here rest induction =>
      exact fun occurs =>
        induction (apart.infix_append (List.Subset.refl _) occurs)
  | step differs rest induction =>
      intro occurs
      rcases List.infix_cons_iff.mp occurs with leads | later
      · exact differs ((Replaced.step differs rest).prefix_inv someMarker
          apart.without leads)
      · exact induction later

/-- A marker is left alone. -/
theorem Replaced.append_inv (apart : StandsApart marker needle)
    {lead : List Char} (inside : lead ⊆ marker)
    (replaced : Replaced needle marker (lead ++ text) image) :
    ∃ rest, image = lead ++ rest ∧ Replaced needle marker text rest := by
  induction lead generalizing image with
  | nil => exact ⟨image, rfl, replaced⟩
  | cons char lead induction =>
      obtain ⟨first, others, rfl⟩ := List.exists_cons_of_ne_nil apart.nonempty
      rw [List.cons_append] at replaced
      generalize whole : char :: (lead ++ text) = full at replaced
      cases replaced with
      | nil => cases whole
      | here rest =>
          obtain ⟨rfl, _⟩ := List.cons.inj whole
          exact absurd (inside List.mem_cons_self) (apart.outside char rfl)
      | step differs rest =>
          obtain ⟨rfl, rfl⟩ := List.cons.inj whole
          obtain ⟨behind, rfl, replaced⟩ := induction (fun char member =>
            inside (List.mem_cons_of_mem _ member)) rest
          exact ⟨behind, rfl, replaced⟩

end Replacing

section Redacting

variable {marker : List Char} {needles : List (List Char)}
variable {text image : List Char}

/-- A text and its image with some occurrences of needles cut out, and a marker
in place of each; everything else is kept in order. -/
inductive Redacted (marker : List Char) (needles : List (List Char)) :
    List Char → List Char → Prop where
  | nil : Redacted marker needles [] []
  | keep {char : Char} {text image : List Char}
      (rest : Redacted marker needles text image) :
      Redacted marker needles (char :: text) (char :: image)
  | cut {needle text image : List Char} (isNeedle : needle ∈ needles)
      (nonempty : needle ≠ [])
      (rest : Redacted marker needles text image) :
      Redacted marker needles (needle ++ text) (marker ++ image)

theorem Redacted.nil_inv (redacted : Redacted marker needles [] image) :
    image = [] := by
  generalize isEmpty : ([] : List Char) = text at redacted
  cases redacted with
  | nil => rfl
  | keep rest => cases isEmpty
  | cut isNeedle nonempty rest =>
      exact absurd (List.append_eq_nil_iff.mp isEmpty.symm).1 nonempty

theorem Redacted.refl (text : List Char) :
    Redacted marker needles text text := by
  induction text with
  | nil => exact .nil
  | cons char rest induction => exact .keep induction

/-- A part of an image without the beginning of a marker is kept. -/
theorem Redacted.append_inv {part : List Char} (someMarker : marker ≠ [])
    (without : ∀ char ∈ marker.head?, char ∉ part)
    (redacted : Redacted marker needles text (part ++ image)) :
    ∃ rest, text = part ++ rest ∧ Redacted marker needles rest image := by
  obtain ⟨mark, others, rfl⟩ := List.exists_cons_of_ne_nil someMarker
  induction part generalizing text with
  | nil => exact ⟨text, rfl, redacted⟩
  | cons char part induction =>
      rw [List.cons_append] at redacted
      generalize whole : char :: (part ++ image) = full at redacted
      cases redacted with
      | nil => cases whole
      | keep rest =>
          obtain ⟨rfl, rfl⟩ := List.cons.inj whole
          obtain ⟨behind, rfl, redacted⟩ := induction (fun other member inPart =>
            without other member (List.mem_cons_of_mem _ inPart)) rest
          exact ⟨behind, rfl, redacted⟩
      | cut isNeedle nonempty rest =>
          obtain ⟨rfl, _⟩ := List.cons.inj whole
          exact absurd List.mem_cons_self (without char rfl)

/-- Replacing one more needle. -/
theorem Redacted.replace {needle final : List Char} (someMarker : marker ≠ [])
    (apart : StandsApart marker needle) (isNeedle : needle ∈ needles)
    (redacted : Redacted marker needles text image)
    (replaced : Replaced needle marker image final) :
    Redacted marker needles text final := by
  induction length : image.length using Nat.strong_induction_on
    generalizing text image final with
  | _ length induction =>
      cases replaced with
      | nil => exact redacted
      | @here rest final replaced =>
          obtain ⟨behind, rfl, kept⟩ :=
            redacted.append_inv someMarker apart.without
          refine .cut isNeedle apart.nonempty
            (induction rest.length ?_ kept replaced rfl)
          have positive := List.length_pos_iff.mpr apart.nonempty
          rw [← length, List.length_append]
          omega
      | @step char rest final differs replaced =>
          have whole := Replaced.step differs replaced
          generalize isImage : char :: rest = full at redacted whole length
          cases redacted with
          | nil => cases isImage
          | keep kept =>
              obtain ⟨rfl, rfl⟩ := List.cons.inj isImage
              exact .keep
                (induction _ (by simp [← length]) kept replaced rfl)
          | cut cutsNeedle nonempty kept =>
              obtain ⟨behind, isFinal, replaced⟩ :=
                Replaced.append_inv apart (List.Subset.refl _) whole
              rw [isFinal]
              refine .cut cutsNeedle nonempty
                (induction _ ?_ kept replaced rfl)
              have positive := List.length_pos_iff.mpr someMarker
              rw [← length, List.length_append]
              omega

/-- A part of a text that overlaps no occurrence of a needle. -/
def Untouched (needles : List (List Char)) (before part after : List Char) :
    Prop :=
  ∀ needle ∈ needles, ∀ front back,
    before ++ part ++ after = front ++ needle ++ back →
      front.length + needle.length ≤ before.length ∨
        before.length + part.length ≤ front.length

theorem Untouched.tail {char : Char} {before part after : List Char}
    (untouched : Untouched needles (char :: before) part after) :
    Untouched needles before part after := by
  intro needle isNeedle front back occurs
  have bounds := untouched needle isNeedle (char :: front) back
    (congrArg (char :: ·) occurs)
  simp only [List.length_cons] at bounds
  omega

theorem Untouched.within {char : Char} {part after : List Char}
    (untouched : Untouched needles [] (char :: part) after) :
    Untouched needles [] part after := by
  intro needle isNeedle front back occurs
  have bounds := untouched needle isNeedle (char :: front) back
    (congrArg (char :: ·) occurs)
  simp only [List.length_cons, List.length_nil] at bounds ⊢
  omega

theorem Untouched.behind {lead before part after : List Char}
    (untouched : Untouched needles (lead ++ before) part after) :
    Untouched needles before part after := by
  induction lead with
  | nil => exact untouched
  | cons char lead induction => exact induction untouched.tail

theorem append_eq_append_of_le {first second other rest : List Char}
    (same : first ++ second = other ++ rest)
    (shorter : first.length ≤ other.length) :
    ∃ behind, other = first ++ behind ∧ second = behind ++ rest := by
  rcases List.append_eq_append_iff.mp same with
    ⟨behind, isOther, isSecond⟩ | ⟨behind, isFirst, isRest⟩
  · exact ⟨behind, isOther, isSecond⟩
  · obtain rfl : behind = [] := by
      rw [isFirst, List.length_append] at shorter
      exact List.length_eq_zero_iff.mp (by omega)
    exact ⟨[], by simpa using isFirst.symm, by simpa using isRest.symm⟩

/-- What overlaps no needle is kept, in order with what is on its sides. -/
theorem Redacted.kept {before part after : List Char}
    (redacted : Redacted marker needles (before ++ part ++ after) image)
    (untouched : Untouched needles before part after) :
    ∃ front back, image = front ++ part ++ back ∧
      Redacted marker needles before front ∧
      Redacted marker needles after back := by
  generalize whole : before ++ part ++ after = text at redacted
  induction redacted generalizing before part with
  | nil =>
      simp only [List.append_eq_nil_iff] at whole
      obtain ⟨⟨rfl, rfl⟩, rfl⟩ := whole
      exact ⟨[], [], rfl, .nil, .nil⟩
  | @keep char text image rest induction =>
      cases before with
      | cons first before =>
          obtain ⟨rfl, rfl⟩ := List.cons.inj whole
          obtain ⟨front, back, rfl, redactedFront, redactedBack⟩ :=
            induction untouched.tail rfl
          exact ⟨first :: front, back, rfl, .keep redactedFront, redactedBack⟩
      | nil =>
          cases part with
          | nil =>
              rw [List.append_nil, List.nil_append] at whole
              exact ⟨[], char :: image, rfl, .nil, whole ▸ .keep rest⟩
          | cons first part =>
              obtain ⟨rfl, rfl⟩ := List.cons.inj whole
              obtain ⟨front, back, rfl, redactedFront, redactedBack⟩ :=
                induction untouched.within rfl
              obtain rfl := redactedFront.nil_inv
              exact ⟨[], back, rfl, .nil, redactedBack⟩
  | @cut needle text image isNeedle nonempty rest induction =>
      have some := List.length_pos_iff.mpr nonempty
      have bounds := untouched needle isNeedle [] text (by simpa using whole)
      rw [List.length_nil, Nat.zero_add] at bounds
      rcases bounds with inFront | isEmpty
      · rw [List.append_assoc] at whole
        obtain ⟨behind, rfl, isText⟩ :=
          append_eq_append_of_le whole.symm inFront
        obtain ⟨front, back, rfl, redactedFront, redactedBack⟩ :=
          induction untouched.behind (by rw [isText, List.append_assoc])
        exact ⟨marker ++ front, back, by simp, .cut isNeedle nonempty
          redactedFront, redactedBack⟩
      · obtain rfl : before = [] := List.length_eq_zero_iff.mp (by omega)
        obtain rfl : part = [] := List.length_eq_zero_iff.mp (by omega)
        rw [List.append_nil, List.nil_append] at whole
        exact ⟨[], _, rfl, .nil, whole ▸ .cut isNeedle nonempty rest⟩

end Redacting

end RustText

end ZaloBot
