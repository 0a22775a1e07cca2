import ZaloBot.EditIntents
import ZaloBot.FoldedCuts
import ZaloBot.ParsingSafety

/-!
# Edits of the merchant

`parse_edit_or_recat` recognizes an edit of the merchant by its folded text and
looks for the merchant in the original text, behind the first keyword of a list
that occurs anywhere in it.  The merchant is the whole name exactly if that
keyword is the tag of the edit.
-/

namespace ZaloBot

namespace Conversation

open RustText

section Reading

variable (tables : TextTables)

/-- The words that an edit begins with. -/
def editWords : List String :=
  ["sua so tien ", "sai so tien ", "sua ", "edit ", "fix "]

/-- The message as `parse_edit_or_recat` reads it, which `parse_intent` has
trimmed before. -/
def editedMessage (text : String) : String :=
  trimCommandPunctuation (trimCommandPunctuation text)

/-- The folded text behind the edit word and the tag, as `strip_prefix_any`
returns it. -/
def merchantRemainder (text : String) : Option String :=
  (stripPrefixAny (fold tables (editedMessage text)) editWords).bind
    (stripPrefixAny · merchantTags)

/-- The text is cut behind the first of the keywords that occurs in its
lowercase with something behind it, where it occurs first. -/
def FirstCut (raw lowered : List Char) :
    List (List Char) → List Char → List Char → Prop
  | [], _, _ => False
  | keyword :: others, front, back =>
      (∃ offset, find keyword lowered = some offset ∧ raw = front ++ back ∧
        byteLength front = offset + byteLength keyword ∧
        trimChars back ≠ []) ∨
      LeavesNothing raw lowered keyword ∧
        FirstCut raw lowered others front back

/-- A cut at a keyword of merchants leaves the edit word and the tag in front,
so that they are what the message has before the remainder. -/
def CutsBehindTag (text value : String) : Prop :=
  let raw := (editedMessage text).toList
  ∀ front back, FirstCut raw (toLowercase tables.endsWord raw)
    (merchantKeywords.map String.toList) front back →
      fold tables (String.ofList front) ++ " " ++ value =
        fold tables (editedMessage text)

end Reading

section Cuts

variable {raw lowered keyword : List Char} {keywords : List (List Char)}

/-- `extract_after_keywords` returns what is behind the cut, if there is
one. -/
theorem extractAfter_eq_ok {found : Option (List Char)}
    (extracted : extractAfter raw lowered keywords = .ok found) :
    (found = none ∧ ∀ front back,
      ¬ FirstCut raw lowered keywords front back) ∨
    ∃ front back, found = some (trimChars back) ∧ raw = front ++ back ∧
      trimChars back ≠ [] ∧ ∀ otherFront otherBack,
        FirstCut raw lowered keywords otherFront otherBack ↔
          otherFront = front ∧ otherBack = back := by
  induction keywords with
  | nil =>
      cases extracted
      exact .inl ⟨rfl, fun _ _ => id⟩
  | cons keyword others induction =>
      rw [extractAfter] at extracted
      cases isFound : find keyword lowered with
      | none =>
          have nothing : LeavesNothing raw lowered keyword := by
            simp [LeavesNothing, isFound]
          simp only [isFound] at extracted
          simpa [FirstCut, isFound, nothing] using induction extracted
      | some offset =>
          simp only [isFound] at extracted
          cases slice : sliceAfter raw keyword offset with
          | error panic =>
              rw [slice] at extracted
              cases extracted
          | ok after =>
              rw [slice, ok_bind] at extracted
              have leaves := leavesNothing_iff isFound slice
              unfold sliceAfter at slice
              cases cut : sliceFrom raw (offset + byteLength keyword) with
              | error panic =>
                  rw [cut] at slice
                  cases slice
              | ok back =>
                  rw [cut, ok_bind] at slice
                  cases slice
                  obtain ⟨front, isRaw, length⟩ := sliceFrom_eq_ok_iff.mp cut
                  have cutUnique (otherFront otherBack : List Char)
                      (split : raw = otherFront ++ otherBack)
                      (sameLength : byteLength otherFront =
                        offset + byteLength keyword) :
                      otherFront = front ∧ otherBack = back := by
                    have again := sliceFrom_append otherFront otherBack
                    rw [← split, sameLength, cut] at again
                    cases again
                    rw [isRaw] at split
                    exact ⟨(List.append_cancel_right split).symm, rfl⟩
                  split at extracted
                  · rename_i empty
                    rw [List.isEmpty_iff] at empty
                    have blank (otherFront otherBack : List Char)
                        (split : raw = otherFront ++ otherBack)
                        (sameLength : byteLength otherFront =
                          offset + byteLength keyword) :
                        trimChars otherBack = [] := by
                      rw [(cutUnique _ _ split sameLength).2]
                      exact empty
                    have step (otherFront otherBack : List Char) :
                        FirstCut raw lowered (keyword :: others) otherFront
                          otherBack ↔
                        FirstCut raw lowered others otherFront otherBack := by
                      simp only [FirstCut, isFound, Option.some.injEq,
                        leaves.mpr empty, true_and]
                      constructor
                      · rintro (⟨_, rfl, split, sameLength, some⟩ | later)
                        · exact absurd (blank _ _ split sameLength) some
                        · exact later
                      · exact .inr
                    simpa only [step] using induction extracted
                  · rename_i nonempty
                    rw [List.isEmpty_iff] at nonempty
                    cases extracted
                    refine .inr ⟨front, back, rfl, isRaw, nonempty,
                      fun otherFront otherBack => ?_⟩
                    simp only [FirstCut, isFound, Option.some.injEq,
                      leaves, nonempty, false_and, or_false]
                    constructor
                    · rintro ⟨_, rfl, split, sameLength, _⟩
                      exact cutUnique _ _ split sameLength
                    · rintro ⟨rfl, rfl⟩
                      exact ⟨offset, rfl, isRaw, length, nonempty⟩

end Cuts

section Remainders

variable {tables : TextTables} {text rest value : String}

theorem toList_of_stripPrefixAny {leads : List String}
    (stripped : stripPrefixAny text leads = some rest) :
    ∃ lead ∈ leads, ∃ tail, text.toList = lead.toList ++ tail ∧
      rest.toList = trimChars tail := by
  obtain ⟨tail, found, rfl⟩ := Option.map_eq_some_iff.mp stripped
  obtain ⟨lead, member, isTail⟩ := List.exists_of_findSome?_eq_some found
  unfold stripPrefix at isTail
  split at isTail
  · rename_i leads
    obtain ⟨behind, isText⟩ := List.isPrefixOf_iff_prefix.mp leads
    cases isTail
    refine ⟨lead, member, behind, isText.symm, ?_⟩
    rw [trim_eq_ofList, String.toList_ofList, String.toList_ofList, ← isText,
      List.drop_left]
  · cases isTail

theorem tags_end_in_space : ∀ lead ∈ editWords ++ merchantTags,
    lead.toList = lead.toList.dropLast ++ [' '] ∧
      ∀ small ∈ [Char.ofNat 963, Char.ofNat 962],
        small ∉ lead.toList.dropLast := by
  decide

/-- The words in front of a stripped lead. -/
theorem words_of_stripPrefixAny {leads : List String}
    {pieces : List (List Char)}
    (known : ∀ lead ∈ leads, lead ∈ editWords ++ merchantTags)
    (areWords : ∀ piece ∈ pieces, IsWord piece)
    (isText : text.toList = [' '].intercalate pieces)
    (stripped : stripPrefixAny text leads = some rest) :
    ∃ lead later, pieces = lead ++ later ∧ lead ≠ [] ∧ later ≠ [] ∧
      (∀ small ∈ [Char.ofNat 963, Char.ofNat 962], small ∉ lead.flatten) ∧
      rest.toList = [' '].intercalate later := by
  obtain ⟨tag, member, tail, isLead, isRest⟩ :=
    toList_of_stripPrefixAny stripped
  obtain ⟨ends, noSigma⟩ := tags_end_in_space tag (known tag member)
  rw [isText, ends, List.append_assoc, List.singleton_append] at isLead
  obtain ⟨lead, later, rfl, someLead, someLater, isTag, rfl⟩ :=
    intercalate_split areWords isLead
  refine ⟨lead, later, rfl, someLead, someLater, ?_, ?_⟩
  · intro small isSmall inside
    obtain ⟨piece, inLead, inPiece⟩ := List.mem_flatten.mp inside
    refine noSigma small isSmall ?_
    rw [isTag]
    exact mem_intercalate_of_mem inLead inPiece
  · rw [isRest, trimChars_intercalate fun piece inLater =>
      areWords piece (List.mem_append_right lead inLater)]

theorem merchantRemainder_of_edit {intent : Intent} {currency : String}
    (read : parseEditOrRecatChecked tables text currency = .ok (some intent))
    (isEdit : intent.kind = .editMerchant) :
    ∃ rest value found,
      stripPrefixAny (fold tables (trimCommandPunctuation text)) editWords =
        some rest ∧
      stripPrefixAny rest merchantTags = some value ∧
      extractAfterKeywords tables (trimCommandPunctuation text)
        merchantKeywords = .ok found ∧
      intent.merchant = trim (found.getD value) := by
  unfold parseEditOrRecatChecked at read
  simp only at read
  split at read
  · cases read
  split at read
  · cases read
    cases isEdit
  split at read
  · cases read
  rename_i rest stripped
  split at read
  · cases read
  unfold parseEditChecked at read
  split at read
  · rename_i value tagged
    split at read
    · cases read
    cases extracted : extractAfterKeywords tables
        (trimCommandPunctuation text) merchantKeywords with
    | error panic =>
        rw [extracted] at read
        cases read
    | ok found =>
        rw [extracted, ok_bind] at read
        cases read
        exact ⟨rest, value, found, stripped, tagged, rfl, rfl⟩
  split at read
  · cases read
    cases isEdit
  split at read
  · obtain ⟨_, _, rfl⟩ := Option.map_eq_some_iff.mp (Except.ok.inj read)
    cases isEdit
  split at read
  · obtain ⟨_, _, rfl⟩ := Option.map_eq_some_iff.mp (Except.ok.inj read)
    cases isEdit
  cases amount : amountOf tables rest currency with
  | error panic =>
      rw [amount] at read
      cases read
  | ok found =>
      rw [amount, ok_bind] at read
      obtain ⟨_, _, rfl⟩ := Option.map_eq_some_iff.mp (Except.ok.inj read)
      cases isEdit

end Remainders

section Names

variable {tables : TextTables} {isCaseIgnorable isCased : Char → Bool}
variable {text currency value : String} {intent : Intent}

/-- The folded message has the edit word and the tag in front of the
remainder. -/
theorem words_of_remainder
    (lawful : Lawful tables isCaseIgnorable isCased)
    (isRemainder : merchantRemainder tables text = some value) :
    ∃ lead later,
      foldedWords tables (editedMessage text).toList = lead ++ later ∧
      lead ≠ [] ∧ later ≠ [] ∧
      (∀ small ∈ [Char.ofNat 963, Char.ofNat 962], small ∉ lead.flatten) ∧
      value.toList = [' '].intercalate later := by
  obtain ⟨rest, stripped, tagged⟩ := Option.bind_eq_some_iff.mp isRemainder
  have areWords : ∀ piece ∈ foldedWords tables (editedMessage text).toList,
      IsWord piece :=
    fun _ => isWord_of_folded
  obtain ⟨word, later, split, someWord, _, plainWord, isRest⟩ :=
    words_of_stripPrefixAny (fun lead member =>
      List.mem_append_left _ member) areWords (fold_toList lawful _) stripped
  rw [split] at areWords
  obtain ⟨tag, name, rfl, _, someName, plainTag, isValue⟩ :=
    words_of_stripPrefixAny (fun lead member =>
      List.mem_append_right _ member) (fun piece member =>
        areWords piece (List.mem_append_right _ member)) isRest tagged
  refine ⟨word ++ tag, name, by rw [split, List.append_assoc],
    by simp [someWord], someName, ?_, isValue⟩
  intro small isSmall inside
  rw [List.flatten_append, List.mem_append] at inside
  exact inside.elim (plainWord small isSmall) (plainTag small isSmall)

/-- A text that folds to the words of the remainder. -/
theorem fold_eq_iff (lawful : Lawful tables isCaseIgnorable isCased)
    {words : List (List Char)} (areWords : ∀ piece ∈ words, IsWord piece)
    (isValue : value.toList = [' '].intercalate words) (part : String) :
    fold tables part = value ↔ foldedWords tables part.toList = words := by
  rw [← String.toList_inj, fold_toList lawful, isValue]
  exact intercalate_inj (fun _ => isWord_of_folded) areWords

/-- A text that folds to the words in front of the remainder. -/
theorem fold_append_iff (lawful : Lawful tables isCaseIgnorable isCased)
    {lead name : List (List Char)} {whole : String}
    (split : foldedWords tables whole.toList = lead ++ name)
    (someLead : lead ≠ []) (someName : name ≠ [])
    (isValue : value.toList = [' '].intercalate name) (part : String) :
    fold tables part ++ " " ++ value = fold tables whole ↔
      foldedWords tables part.toList = lead := by
  have leadWords : ∀ piece ∈ lead, IsWord piece := fun piece member =>
    isWord_of_folded (split ▸ List.mem_append_left _ member)
  rw [← String.toList_inj, String.toList_append, String.toList_append,
    fold_toList lawful, fold_toList lawful, split, isValue,
    intercalate_append someLead someName, List.append_assoc,
    show " ".toList = [' '] from rfl, List.singleton_append,
    List.append_cancel_right_eq]
  exact intercalate_inj (fun _ => isWord_of_folded) leadWords

/-- A merchant edit takes the whole new name exactly if the first keyword with
something behind it is the tag of the edit. -/
theorem merchant_edits_whole_name_iff
    (lawful : Lawful tables isCaseIgnorable isCased)
    (read : parseIntentChecked tables text currency = .ok intent)
    (isEdit : intent.kind = .editMerchant) :
    ∃ value, merchantRemainder tables text = some value ∧
      (fold tables intent.merchant = value ↔
        CutsBehindTag tables text value) := by
  have edits : intent.kind.editsField = true := by
    rw [isEdit]
    rfl
  obtain ⟨rest, value, found, stripped, tagged, extracted, isMerchant⟩ :=
    merchantRemainder_of_edit (edit_of_parseIntent read edits) isEdit
  have isRemainder : merchantRemainder tables text = some value :=
    Option.bind_eq_some_iff.mpr ⟨rest, stripped, tagged⟩
  refine ⟨value, isRemainder, ?_⟩
  obtain ⟨lead, name, split, someLead, someName, noSigma, isValue⟩ :=
    words_of_remainder lawful isRemainder
  have nameWords : ∀ piece ∈ name,
      piece ∈ foldedWords tables (editedMessage text).toList := by
    intro piece member
    rw [split]
    exact List.mem_append_right _ member
  have areWords : ∀ piece ∈ name, IsWord piece := fun piece member =>
    isWord_of_folded (nameWords piece member)
  rw [isMerchant, fold_eq_iff lawful areWords isValue, trim_eq_ofList,
    String.toList_ofList, foldedWords_trimChars lawful]
  simp only [CutsBehindTag, fold_append_iff lawful split someLead someName
    isValue, String.toList_ofList]
  unfold extractAfterKeywords at extracted
  cases searched : extractAfter (trimCommandPunctuation
      (trimCommandPunctuation text)).toList (toLowercase tables.endsWord
      (trimCommandPunctuation (trimCommandPunctuation text)).toList)
      (merchantKeywords.map String.toList) with
  | error panic =>
      rw [searched] at extracted
      cases extracted
  | ok result =>
      rw [searched, ok_bind] at extracted
      cases extracted
      rcases extractAfter_eq_ok searched with
        ⟨rfl, noCut⟩ | ⟨front, back, rfl, isRaw, _, cuts⟩
      · refine iff_of_true ?_ fun front back cut =>
          absurd cut (noCut front back)
        rw [Option.map_none, Option.getD_none, isValue]
        exact foldedWords_intercalate lawful nameWords
      · rw [Option.map_some, Option.getD_some, String.toList_ofList,
          foldedWords_trimChars lawful, editedMessage]
        rw [editedMessage, isRaw] at split
        rw [cut_iff lawful split someLead someName noSigma]
        simp [cuts]

end Names

section Samples

theorem plainTables_lawful :
    Lawful plainTables (fun _ => false) (fun _ => false) where
  endsWord := by
    funext before after
    unfold finalSigma caseIgnorableThenCased
    cases (before.dropWhile fun _ => false).head? with
    | none => rfl
    | some char => rfl
  within := by
    intro char other member
    rw [List.mem_singleton.mp member]
  spaces _ _ := ⟨rfl, rfl⟩
  marks _ _ := .inr rfl
  decomposed := by
    intro char already other member
    rw [List.mem_singleton.mp member]
    exact ⟨already, rfl⟩
  plain _ _ := ⟨rfl, rfl⟩

def phoMessage : String := "fix shop Pho"

def phoEdit : Intent :=
  { Intent.of .editMerchant with merchant := "Pho" }

theorem merchant_edits_whole_name_of_pho :
    ∃ value, merchantRemainder plainTables phoMessage = some value ∧
      (fold plainTables phoEdit.merchant = value ↔
        CutsBehindTag plainTables phoMessage value) := by
  have read : parseIntentChecked plainTables phoMessage "VND" =
      .ok phoEdit := by
    decide +kernel
  exact merchant_edits_whole_name_iff plainTables_lawful read rfl

/-- A store whose name begins with another tag. -/
def shopMessage : String := "fix store Shop Pho"

theorem tag_in_name_cuts_it :
    ∃ intent,
      parseIntentChecked plainTables shopMessage "VND" = .ok intent ∧
      intent.kind = .editMerchant ∧
      merchantRemainder plainTables shopMessage = some "shop pho" ∧
      fold plainTables intent.merchant ≠ "shop pho" := by
  have folded : fold plainTables "Pho" = "pho" := by
    rfl
  refine ⟨phoEdit, by decide +kernel, rfl, by decide +kernel, ?_⟩
  rw [phoEdit, folded]
  decide

end Samples

end Conversation

end ZaloBot
