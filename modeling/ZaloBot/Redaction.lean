import ZaloBot.TextReplacements
import ZaloBot.TextOffsets

/-!
# Redaction of provider errors

`redact_value` replaces a token, a chat id, a text, a URL and escaped forms of
the token and the URL one after another by a marker.
-/

namespace ZaloBot

namespace Redaction

open RustText

/-- The marker. -/
def redacted : String := "[REDACTED]"

/-- What `url_escape` writes for a character. -/
def escapeChar : Char → List Char
  | ':' => "%3A".toList
  | '/' => "%2F".toList
  | '?' => "%3F".toList
  | '#' => "%23".toList
  | '[' => "%5B".toList
  | ']' => "%5D".toList
  | '@' => "%40".toList
  | '!' => "%21".toList
  | '$' => "%24".toList
  | '&' => "%26".toList
  | '\x27' => "%27".toList
  | '(' => "%28".toList
  | ')' => "%29".toList
  | '*' => "%2A".toList
  | '+' => "%2B".toList
  | ',' => "%2C".toList
  | ';' => "%3B".toList
  | '=' => "%3D".toList
  | '%' => "%25".toList
  | ' ' => "%20".toList
  | char => [char]

/-- `url_escape`. -/
def urlEscape (value : String) : String :=
  String.ofList (value.toList.flatMap escapeChar)

/-- `path_escape`. -/
def pathEscape (value : String) : String :=
  replace value ":" "%3A"

/-- The replacement of a needle that is contained. -/
def redactNeedle (out needle : String) : String :=
  if contains out needle then replace out needle redacted else out

/-- The needles without those that are empty. -/
def plainNeedles (token chatId text url : String) : List String :=
  [token, chatId, text, url].filter fun needle => !needle.isEmpty

/-- The escaped forms of a value that is not empty. -/
def escapedForms (value : String) : List String :=
  if value.isEmpty then [] else [urlEscape value, pathEscape value]

/-- What is replaced, in order. -/
def needles (token chatId text url : String) : List String :=
  plainNeedles token chatId text url ++ escapedForms token ++
    escapedForms url

/-- `redact_value`. -/
def redactValue (value token chatId text url : String) : String :=
  if value.isEmpty then value
  else
    let out := [token, chatId, text, url].foldl (fun out needle =>
      if needle.isEmpty then out else redactNeedle out needle) value
    let out := if token.isEmpty then out
      else [urlEscape token, pathEscape token].foldl redactNeedle out
    if url.isEmpty then out
    else [urlEscape url, pathEscape url].foldl redactNeedle out

section Needles

variable {value token chatId text url needle : String}

/-- A text without the characters of the marker. -/
def SharesNothing (needle : String) : Prop :=
  ∀ char ∈ needle.toList, char ∉ redacted.toList

theorem isEmpty_iff : value.isEmpty = true ↔ value = "" :=
  String.isEmpty_iff

theorem redactValue_eq :
    redactValue value token chatId text url =
      if value.isEmpty then value
      else (needles token chatId text url).foldl redactNeedle value := by
  have plain (values : List String) (out : String) :
      values.foldl (fun out needle =>
        if needle.isEmpty then out else redactNeedle out needle) out =
      (values.filter fun needle => !needle.isEmpty).foldl redactNeedle
        out := by
    induction values generalizing out with
    | nil => rfl
    | cons first rest induction =>
        rw [List.foldl_cons, induction]
        cases empty : first.isEmpty with
        | true => simp [empty]
        | false => simp [empty]
  have escaped (value out : String) :
      (if value.isEmpty then out
        else [urlEscape value, pathEscape value].foldl redactNeedle out) =
      (escapedForms value).foldl redactNeedle out := by
    unfold escapedForms
    split <;> rfl
  simp only [redactValue, plain, escaped, needles, List.foldl_append,
    plainNeedles]

/-- The escapes of `url_escape`. -/
def escapes : List (List Char) :=
  ["%3A".toList, "%2F".toList, "%3F".toList, "%23".toList, "%5B".toList,
    "%5D".toList, "%40".toList, "%21".toList, "%24".toList, "%26".toList,
    "%27".toList, "%28".toList, "%29".toList, "%2A".toList, "%2B".toList,
    "%2C".toList, "%3B".toList, "%3D".toList, "%25".toList, "%20".toList]

theorem escapeChar_cases (char : Char) :
    escapeChar char = [char] ∨ escapeChar char ∈ escapes := by
  unfold escapeChar
  split
  all_goals first
    | exact .inl rfl
    | exact .inr (by decide)

theorem escapes_apart : ∀ escape ∈ escapes,
    StandsApart redacted.toList escape := by
  intro escape member
  have parts : (!escape.isEmpty &&
      escape.head?.all (fun char => !redacted.toList.contains char) &&
      redacted.toList.head?.all fun char => !escape.contains char) = true := by
    revert escape
    decide
  simp only [Bool.and_eq_true, Bool.not_eq_true', List.isEmpty_eq_false_iff,
    Option.all_eq_true, List.contains_eq_mem, decide_eq_false_iff_not] at parts
  exact ⟨parts.1.1, parts.1.2, parts.2⟩

theorem single_apart {char : Char} (outside : char ∉ redacted.toList) :
    StandsApart redacted.toList [char] where
  nonempty := List.cons_ne_nil _ _
  outside := by
    rintro other ⟨⟩
    exact outside
  without := by
    rintro other ⟨⟩ inside
    cases List.mem_singleton.mp inside
    exact outside (by decide)

/-- A text written with needles that stand apart stands apart. -/
theorem flatMap_apart {write : Char → List Char} {chars : List Char}
    (nonempty : chars ≠ [])
    (apart : ∀ char ∈ chars, StandsApart redacted.toList (write char)) :
    StandsApart redacted.toList (chars.flatMap write) := by
  obtain ⟨first, others, rfl⟩ := List.exists_cons_of_ne_nil nonempty
  have firstApart := apart first List.mem_cons_self
  obtain ⟨head, tail, isFirst⟩ :=
    List.exists_cons_of_ne_nil firstApart.nonempty
  refine ⟨by simp [isFirst], ?_, ?_⟩
  · intro char isHead
    refine firstApart.outside char ?_
    rw [List.flatMap_cons, isFirst] at isHead
    rw [isFirst]
    exact isHead
  · intro char isMark inside
    obtain ⟨source, inChars, written⟩ := List.mem_flatMap.mp inside
    exact (apart source inChars).without char isMark written

theorem apart_of_shares (shares : SharesNothing needle)
    (nonempty : needle.isEmpty = false) :
    StandsApart redacted.toList needle.toList := by
  have some : needle.toList ≠ [] := by
    intro empty
    rw [String.toList_eq_nil_iff] at empty
    simp [empty] at nonempty
  have written := flatMap_apart some fun char member =>
    single_apart (shares char member)
  rwa [List.flatMap_singleton'] at written

theorem urlEscape_apart (shares : SharesNothing needle)
    (nonempty : needle.toList ≠ []) :
    StandsApart redacted.toList (urlEscape needle).toList := by
  rw [urlEscape, String.toList_ofList]
  refine flatMap_apart nonempty fun char member => ?_
  rcases escapeChar_cases char with same | isEscape
  · rw [same]
    exact single_apart (shares char member)
  · exact escapes_apart _ isEscape

theorem pathEscape_apart (shares : SharesNothing needle)
    (nonempty : needle.toList ≠ []) :
    StandsApart redacted.toList (pathEscape needle).toList := by
  rw [pathEscape, replace, String.toList_ofList,
    show ":".toList = [':'] from rfl, replaceChars_single]
  refine flatMap_apart nonempty fun char member => ?_
  split
  · exact escapes_apart _ (by decide)
  · exact single_apart (shares char member)

theorem nonempty_of_isEmpty (nonempty : needle.isEmpty = false) :
    needle.toList ≠ [] := by
  intro empty
  rw [String.toList_eq_nil_iff] at empty
  simp [empty] at nonempty

/-- Every needle stands apart from the marker. -/
theorem needles_apart
    (shares : ∀ secret ∈ [token, chatId, text, url],
      SharesNothing secret) :
    ∀ needle ∈ needles token chatId text url,
      StandsApart redacted.toList needle.toList := by
  have forms (value : String) (apart : SharesNothing value) :
      ∀ needle ∈ escapedForms value,
        StandsApart redacted.toList needle.toList := by
    intro needle member
    unfold escapedForms at member
    split at member
    · contradiction
    · rename_i nonempty
      have some := nonempty_of_isEmpty (Bool.eq_false_iff.mpr nonempty)
      rcases List.mem_pair.mp member with rfl | rfl
      · exact urlEscape_apart apart some
      · exact pathEscape_apart apart some
  intro needle member
  rcases List.mem_append.mp member with plainOrToken | ofUrl
  · rcases List.mem_append.mp plainOrToken with plain | ofToken
    · obtain ⟨isSecret, nonempty⟩ := List.mem_filter.mp plain
      exact apart_of_shares (shares needle isSecret)
        (by simpa using nonempty)
    · exact forms token (shares token (by simp)) needle ofToken
  · exact forms url (shares url (by simp)) needle ofUrl

end Needles

section Steps

variable {all : List (List Char)} {text out needle other : String}

theorem marker_nonempty : redacted.toList ≠ [] := by
  decide

/-- The replacement of one needle. -/
theorem replaced_redactNeedle
    (apart : StandsApart redacted.toList needle.toList)
    (isContained : contains out needle = true) :
    Replaced needle.toList redacted.toList out.toList
      (redactNeedle out needle).toList := by
  rw [redactNeedle, if_pos isContained, replace, String.toList_ofList]
  exact replaced_replaceChars apart.nonempty out.toList

theorem redactNeedle_removes
    (apart : StandsApart redacted.toList needle.toList) :
    contains (redactNeedle out needle) needle = false := by
  cases isContained : contains out needle with
  | false => simp [redactNeedle, isContained]
  | true =>
      rw [Bool.eq_false_iff, ne_eq, contains_iff]
      exact (replaced_redactNeedle apart isContained).absent marker_nonempty
        apart

theorem redactNeedle_adds_none
    (apart : StandsApart redacted.toList needle.toList)
    (otherApart : StandsApart redacted.toList other.toList)
    (absent : contains out other = false) :
    contains (redactNeedle out needle) other = false := by
  cases isContained : contains out needle with
  | false => simpa [redactNeedle, isContained] using absent
  | true =>
      rw [Bool.eq_false_iff, ne_eq, contains_iff] at absent ⊢
      exact fun occurs => absent ((replaced_redactNeedle apart
        isContained).infix_inv marker_nonempty otherApart occurs)

theorem redacted_redactNeedle
    (apart : StandsApart redacted.toList needle.toList)
    (isNeedle : needle.toList ∈ all)
    (before : Redacted redacted.toList all text.toList out.toList) :
    Redacted redacted.toList all text.toList
      (redactNeedle out needle).toList := by
  cases isContained : contains out needle with
  | false => simpa [redactNeedle, isContained] using before
  | true =>
      exact before.replace marker_nonempty apart isNeedle
        (replaced_redactNeedle apart isContained)

variable {others : List String}

/-- All replacements. -/
theorem foldl_redactNeedle
    (apart : ∀ needle ∈ others, StandsApart redacted.toList needle.toList)
    (known : ∀ needle ∈ others, needle.toList ∈ all)
    (before : Redacted redacted.toList all text.toList out.toList) :
    Redacted redacted.toList all text.toList
        (others.foldl redactNeedle out).toList ∧
      ∀ other, StandsApart redacted.toList other.toList →
        (other ∈ others ∨ contains out other = false) →
          contains (others.foldl redactNeedle out) other = false := by
  induction others generalizing out with
  | nil =>
      exact ⟨before, fun other _ absent =>
        absent.resolve_left List.not_mem_nil⟩
  | cons first rest induction =>
      have firstApart := apart first List.mem_cons_self
      have further := induction
        (fun needle member => apart needle (List.mem_cons_of_mem _ member))
        (fun needle member => known needle (List.mem_cons_of_mem _ member))
        (redacted_redactNeedle firstApart (known first List.mem_cons_self)
          before)
      refine ⟨further.1, fun other otherApart absent =>
        further.2 other otherApart ?_⟩
      rcases absent with member | absent
      · rcases List.mem_cons.mp member with rfl | inRest
        · exact .inr (redactNeedle_removes firstApart)
        · exact .inl inRest
      · exact .inr (redactNeedle_adds_none firstApart otherApart absent)

end Steps

section Secrets

variable {value token chatId text url : String}

/-- Redaction removes every secret and the escaped forms of the token and the
URL, and keeps in order what overlaps none of them. -/
theorem redaction_removes_secrets
    (shares : ∀ secret ∈ [token, chatId, text, url],
      SharesNothing secret) :
    (∀ secret ∈ [token, chatId, text, url], secret ≠ "" →
      contains (redactValue value token chatId text url) secret = false) ∧
    (∀ secret ∈ [token, url], secret ≠ "" →
      contains (redactValue value token chatId text url)
          (urlEscape secret) = false ∧
        contains (redactValue value token chatId text url)
          (pathEscape secret) = false) ∧
    Redacted redacted.toList ((needles token chatId text url).map
        String.toList) value.toList
      (redactValue value token chatId text url).toList ∧
    ∀ before part after, value.toList = before ++ part ++ after →
      Untouched ((needles token chatId text url).map String.toList)
        before part after →
      ∃ front back,
        (redactValue value token chatId text url).toList =
          front ++ part ++ back ∧
        Redacted redacted.toList ((needles token chatId text url).map
          String.toList) before front ∧
        Redacted redacted.toList ((needles token chatId text url).map
          String.toList) after back := by
  have apart := needles_apart shares
  have folded := foldl_redactNeedle apart (fun needle member =>
    List.mem_map_of_mem member) (Redacted.refl value.toList)
  have whole : Redacted redacted.toList ((needles token chatId text url).map
        String.toList) value.toList
        (redactValue value token chatId text url).toList := by
    rw [redactValue_eq]
    split
    · exact Redacted.refl value.toList
    · exact folded.1
  have absent (needle : String)
      (member : needle ∈ needles token chatId text url) :
      contains (redactValue value token chatId text url) needle = false := by
    rw [redactValue_eq]
    split
    · rename_i empty
      rw [isEmpty_iff] at empty
      rw [Bool.eq_false_iff, ne_eq, contains_iff, empty]
      exact fun occurs => (apart needle member).nonempty
        (List.infix_nil.mp occurs)
    · exact folded.2 needle (apart needle member) (.inl member)
  have forms (secret : String) (some : secret ≠ "") :
      urlEscape secret ∈ escapedForms secret ∧
        pathEscape secret ∈ escapedForms secret := by
    simp [escapedForms, some]
  refine ⟨fun secret member some => absent secret ?_,
    fun secret member some => ?_, whole, fun before part after split
      untouched => ?_⟩
  · refine List.mem_append_left _ (List.mem_append_left _
      (List.mem_filter.mpr ⟨member, ?_⟩))
    simpa [isEmpty_iff] using some
  · have inNeedles (needle : String) (isForm : needle ∈ escapedForms secret) :
        needle ∈ needles token chatId text url := by
      rcases List.mem_pair.mp member with rfl | rfl
      · exact List.mem_append_left _ (List.mem_append_right _ isForm)
      · exact List.mem_append_right _ isForm
    exact ⟨absent _ (inNeedles _ (forms secret some).1),
      absent _ (inNeedles _ (forms secret some).2)⟩
  · rw [split] at whole
    exact whole.kept untouched

/-- A report that tells all. -/
def leakyReport : String :=
  "/bot12:x/to/55: phở, 12%3Ax?u=a.vn/b,a.vn%2Fb"

theorem redaction_removes_secrets_of_url :
    (∀ secret ∈ ["12:x", "55", "phở", "a.vn/b"],
      contains (redactValue leakyReport "12:x" "55" "phở" "a.vn/b") secret =
        false) ∧
    contains (redactValue leakyReport "12:x" "55" "phở" "a.vn/b")
      "12%3Ax" = false ∧
    contains (redactValue leakyReport "12:x" "55" "phở" "a.vn/b")
      "a.vn%2Fb" = false := by
  have apart : ∀ secret ∈ ["12:x", "55", "phở", "a.vn/b"],
      SharesNothing secret := by
    unfold SharesNothing
    decide
  have removes := @redaction_removes_secrets leakyReport _ _ _ _ apart
  refine ⟨fun secret member => removes.1 secret member ?_,
    (removes.2.1 "12:x" (by simp) (by decide)).1,
    (removes.2.1 "a.vn/b" (by simp) (by decide)).1⟩
  rintro rfl
  simp at member

example : redactValue "bot12:x and 12%3Ax" "12:x" "" "" "" =
    "bot[REDACTED] and [REDACTED]" := by
  decide

end Secrets

end Redaction

end ZaloBot
