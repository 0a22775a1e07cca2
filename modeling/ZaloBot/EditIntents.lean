import ZaloBot.CheckedParsing

/-!
# Where intents to edit a field come from

Commands, fixed words and entries are never read as edits of a field, so that
such an intent is what `parse_edit_or_recat` makes of the message.
-/

namespace ZaloBot

namespace Conversation

open RustText

/-- The kinds of intents that edit one field of a draft. -/
def IntentKind.editsField : IntentKind → Bool
  | .editAmount => true
  | .editMerchant => true
  | .editCategory => true
  | .editDate => true
  | .editType => true
  | _ => false

section Commands

/-- Nothing that a computation reads edits a field. -/
def EditsNothing (computation : Checked (Option Intent)) : Prop :=
  ∀ intent, computation = .ok (some intent) →
    intent.kind.editsField = false

variable {computation : Checked (Option Intent)} {intent : Intent}

theorem editsNothing_ok_iff {found : Option Intent} :
    EditsNothing (.ok found) ↔
      ∀ intent ∈ found, intent.kind.editsField = false := by
  simp [EditsNothing]

theorem EditsNothing.bind {Value : Type} {first : Checked Value}
    {rest : Value → Checked (Option Intent)}
    (nothing : ∀ value, EditsNothing (rest value)) :
    EditsNothing (first >>= rest) := by
  cases first with
  | error panic => exact fun intent failed => nomatch failed
  | ok value => exact nothing value

theorem editsNothing_map {Value : Type} (found : Option Value)
    {build : Value → Intent}
    (nothing : ∀ value, (build value).kind.editsField = false) :
    EditsNothing (.ok (found.map build)) := by
  rw [editsNothing_ok_iff]
  intro intent member
  obtain ⟨value, _, rfl⟩ := Option.map_eq_some_iff.mp member
  exact nothing value

theorem editsNothing_some (nothing : intent.kind.editsField = false) :
    EditsNothing (.ok (some intent)) :=
  editsNothing_ok_iff.mpr fun _ member => Option.some.inj member ▸ nothing

theorem editsNothing_none : EditsNothing (.ok none) :=
  editsNothing_ok_iff.mpr fun _ member => absurd member (Option.not_mem_none _)

theorem slashCommand_editsNothing {body : String} {kind : IntentKind}
    (command : slashCommand body = some kind) : kind.editsField = false := by
  have all : ∀ entry ∈ slashCommands, entry.2.editsField = false := by
    decide
  simp only [slashCommand, Option.map_eq_some_iff] at command
  obtain ⟨entry, found, isKind⟩ := command
  rw [← isKind]
  exact all entry (List.mem_of_find?_eq_some found)

theorem timezone_editsNothing (rawFields foldedFields : List String) :
    EditsNothing (.ok (parseTimezoneIntent rawFields foldedFields)) := by
  unfold parseTimezoneIntent
  exact editsNothing_map _ fun _ => rfl

theorem settings_editsNothing (rawFields foldedFields : List String) :
    EditsNothing (.ok (parseSettingsIntent rawFields foldedFields)) := by
  unfold parseSettingsIntent
  split
  · exact editsNothing_none
  · exact editsNothing_some rfl
  · exact timezone_editsNothing rawFields _

theorem language_editsNothing (foldedFields : List String) :
    EditsNothing (.ok (parseLanguageIntent foldedFields)) := by
  unfold parseLanguageIntent
  split
  · exact editsNothing_some rfl
  · split
    · exact editsNothing_some rfl
    · split
      · exact editsNothing_some rfl
      · exact editsNothing_some rfl
  · exact editsNothing_none

theorem scheduleOfFields_editsNothing (rawFields foldedFields : List String) :
    EditsNothing (scheduleOfFieldsChecked rawFields foldedFields) := by
  unfold scheduleOfFieldsChecked
  split
  · exact editsNothing_some rfl
  · split
    · split
      · exact editsNothing_some rfl
      · split
        · exact editsNothing_some rfl
        · exact editsNothing_map _ fun _ => rfl
      · exact editsNothing_none
    · split
      · split
        · exact editsNothing_none
        · exact EditsNothing.bind fun _ => editsNothing_map _ fun _ => rfl
      · exact editsNothing_none

theorem schedule_editsNothing (rawFields foldedFields : List String) :
    EditsNothing (parseScheduleIntentChecked rawFields foldedFields) := by
  unfold parseScheduleIntentChecked
  split
  · exact EditsNothing.bind fun _ => scheduleOfFields_editsNothing _ _
  · exact scheduleOfFields_editsNothing _ _

variable (tables : TextTables)

theorem recat_editsNothing (rawFields foldedFields : List String) :
    EditsNothing (parseRecatSlashChecked tables rawFields foldedFields) := by
  unfold parseRecatSlashChecked
  split
  · exact editsNothing_some rfl
  · exact EditsNothing.bind fun _ => editsNothing_some rfl

/-- Commands with parameters. -/
theorem parameterized_editsNothing (text : String) :
    EditsNothing (parseParameterizedSlashChecked tables text) := by
  unfold parseParameterizedSlashChecked
  simp only
  split
  · exact editsNothing_none
  · split
    · exact timezone_editsNothing _ _
    split
    · exact settings_editsNothing _ _
    split
    · exact schedule_editsNothing _ _
    split
    · exact language_editsNothing _
    split
    · exact recat_editsNothing tables _ _
    · exact editsNothing_none

theorem manualFromAmount_editsNothing (token description currency : String) :
    EditsNothing (manualFromAmountChecked tables token description
      currency) := by
  unfold manualFromAmountChecked
  simp only
  split
  · exact editsNothing_none
  · exact EditsNothing.bind fun _ => editsNothing_map _ fun _ => rfl

theorem manualEntry_editsNothing (text currency : String) :
    EditsNothing (parseManualEntryChecked tables text currency) := by
  unfold parseManualEntryChecked
  simp only
  split
  · split
    · exact editsNothing_none
    · rename_i first last _ _ _
      intro intent read
      cases asFirst : manualFromAmountChecked tables first
          (((stripPrefix (trim text) first).map
            trimCommandPunctuation).getD "") currency with
      | error panic =>
          rw [asFirst] at read
          cases read
      | ok found =>
          rw [asFirst, ok_bind] at read
          split at read
          · cases found with
            | none => cases read
            | some found =>
                cases read
                exact manualFromAmount_editsNothing tables _ _ _ _ asFirst
          · split at read
            · cases read
            · exact manualFromAmount_editsNothing tables _ _ _ _ read
  · exact editsNothing_none

end Commands

section Messages

variable {tables : TextTables} {text currency : String} {intent : Intent}

theorem rest_of_ite {condition : Prop} [Decidable condition]
    {other : Intent} {rest : Checked Intent}
    (edits : intent.kind.editsField = true)
    (read : (if condition then .ok other else rest) = .ok intent)
    (nothing : other.kind.editsField = false) : rest = .ok intent := by
  split at read
  · cases read
    simp [nothing] at edits
  · exact read

theorem edit_of_parsePlain {trimmed folded : String}
    (read : parsePlainChecked tables trimmed folded currency = .ok intent)
    (edits : intent.kind.editsField = true) :
    parseEditOrRecatChecked tables trimmed currency = .ok (some intent) := by
  unfold parsePlainChecked at read
  replace read := rest_of_ite edits read rfl
  replace read := rest_of_ite edits read rfl
  replace read := rest_of_ite edits read rfl
  replace read := rest_of_ite edits read rfl
  replace read := rest_of_ite edits read rfl
  replace read := rest_of_ite edits read rfl
  cases edit : parseEditOrRecatChecked tables trimmed currency with
  | error panic =>
      rw [edit] at read
      cases read
  | ok found =>
      rw [edit, ok_bind] at read
      cases found with
      | some found =>
          cases read
          rfl
      | none =>
          replace read := rest_of_ite edits read rfl
          replace read := rest_of_ite edits read rfl
          cases entry : parseManualEntryChecked tables trimmed currency with
          | error panic =>
              rw [entry] at read
              cases read
          | ok found =>
              rw [entry, ok_bind] at read
              cases found with
              | none =>
                  cases read
                  cases edits
              | some found =>
                  cases read
                  have nothing := manualEntry_editsNothing tables _ _ _ entry
                  exact absurd edits (by simp [nothing])

/-- An intent to edit a field is read by `parse_edit_or_recat`. -/
theorem edit_of_parseIntent
    (read : parseIntentChecked tables text currency = .ok intent)
    (edits : intent.kind.editsField = true) :
    parseEditOrRecatChecked tables (trimCommandPunctuation text) currency =
      .ok (some intent) := by
  unfold parseIntentChecked at read
  simp only at read
  split at read
  · cases read
    cases edits
  · split at read
    · split at read
      · rename_i kind command
        cases read
        exact absurd edits (by
          rw [show (Intent.of kind).kind = kind from rfl,
            slashCommand_editsNothing command]
          exact Bool.false_ne_true)
      · cases slash : parseParameterizedSlashChecked tables
            (trimCommandPunctuation text) with
        | error panic =>
            rw [slash] at read
            cases read
        | ok found =>
            rw [slash, ok_bind] at read
            cases found with
            | none =>
                cases read
                cases edits
            | some found =>
                cases read
                have nothing := parameterized_editsNothing tables _ _ slash
                exact absurd edits (by simp [nothing])
    · exact edit_of_parsePlain read edits

end Messages

end Conversation

end ZaloBot
