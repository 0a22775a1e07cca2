import ZaloBot.EditIntents

/-!
# Decisions that edit a draft

Only a pending confirmation of a draft leads to a command that edits one, and
then it is the only command: the pending draft is edited by the patch of the
intent, and the card of this patch is the reply.
-/

namespace ZaloBot

namespace Conversation

open RustText

section Decisions

variable {tables : TextTables} {zones : ZoneLibrary} {texts : CardTexts}
  {context : AccountContext} {text : String} {now : Timestamp}
  {outcome : ConversationOutcome} {command : DomainCommand}
  {pending : PendingConfirmation} {intent : Intent}

/-- A command that edits a draft. -/
def DomainCommand.editsDraft : DomainCommand → Bool
  | .editReceiptDraft _ _ _ => true
  | .editManualExpense _ _ _ => true
  | _ => false

/-- The command that carries an edit of a pending draft. -/
def editCommand (pending : PendingConfirmation) (edit : DraftEdit) :
    DomainCommand :=
  if pending.kind = .receiptReview then
    .editReceiptDraft pending.referenceId pending.optimisticVersion edit
  else
    .editManualExpense pending.referenceId pending.optimisticVersion edit

/-- An outcome without edits. -/
def EditsNoDraft (outcome : ConversationOutcome) : Prop :=
  ∀ command ∈ outcome.commands, command.editsDraft = false

theorem handleSetLanguage_editsNoDraft (intent : Intent) :
    EditsNoDraft (handleSetLanguage intent) := by
  unfold handleSetLanguage
  split <;> simp [EditsNoDraft, replyOnly, DomainCommand.editsDraft]

theorem handleCommand_editsNoDraft (zones : ZoneLibrary) (texts : CardTexts)
    (context : AccountContext) (intent : Intent) (now : Timestamp) :
    EditsNoDraft (handleCommand zones texts context intent now) := by
  unfold handleCommand
  split <;> try simp [EditsNoDraft, replyOnly, DomainCommand.editsDraft,
    renderPeriod, handleDelete, createManual, expiredOutcome]
  · unfold handleSettings
    split <;> simp [replyOnly]
  · unfold handleTimezone
    split <;> simp [replyOnly]
  · unfold handleSchedule
    repeat' split
    all_goals simp [replyOnly]
  · exact handleSetLanguage_editsNoDraft intent
  · unfold handleRecategorize
    simp only
    repeat' split
    all_goals simp [replyOnly]

theorem applyEdit_edit (edit : Uuid → Nat → DraftEdit → DomainCommand)
    (member : command ∈
      (applyEdit zones texts edit context pending intent now).commands) :
    ∃ patch, draftPatchFromIntent zones texts
        (Locale.parse context.locale) pending intent now context.timezone =
          some patch ∧
      applyEdit zones texts edit context pending intent now =
        ⟨[.card patch.card],
          [edit pending.referenceId pending.optimisticVersion patch.edit]⟩ := by
  unfold applyEdit at member ⊢
  cases patched : draftPatchFromIntent zones texts
      (Locale.parse context.locale) pending intent now context.timezone with
  | none =>
      rw [patched] at member
      cases member
  | some patch => exact ⟨patch, rfl, rfl⟩

theorem resolveManualPending_cases :
    resolveManualPending zones texts context pending intent now =
        applyManualEdit zones texts context pending intent now ∨
      EditsNoDraft
        (resolveManualPending zones texts context pending intent now) := by
  unfold resolveManualPending
  split
  any_goals exact .inl rfl
  all_goals
    refine .inr ?_
    simp [EditsNoDraft, DomainCommand.editsDraft, reshowCard, replyOnly]

theorem resolveReceiptPending_cases :
    resolveReceiptPending zones texts context pending intent now =
        applyReceiptEdit zones texts context pending intent now ∨
      EditsNoDraft
        (resolveReceiptPending zones texts context pending intent now) := by
  unfold resolveReceiptPending
  split
  any_goals exact .inl rfl
  all_goals
    refine .inr ?_
    simp [EditsNoDraft, DomainCommand.editsDraft, reshowCard, replyOnly]

theorem resolveDeletionPending_editsNoDraft :
    EditsNoDraft (resolveDeletionPending context intent) := by
  unfold resolveDeletionPending
  split <;> simp [EditsNoDraft, DomainCommand.editsDraft, replyOnly]

/-- What a pending draft is edited to, and the card of it. -/
theorem resolvePending_edit
    (member : command ∈
      (resolvePending zones texts context pending intent now).commands)
    (edits : command.editsDraft = true) :
    pending.kind ≠ .accountDeletion ∧
      ∃ patch, draftPatchFromIntent zones texts
        (Locale.parse context.locale) pending intent now context.timezone =
          some patch ∧
        resolvePending zones texts context pending intent now =
          ⟨[.card patch.card], [editCommand pending patch.edit]⟩ := by
  have contradicts {found : ConversationOutcome}
      (inside : command ∈ found.commands) (nothing : EditsNoDraft found) :
      False := by
    rw [nothing command inside] at edits
    cases edits
  unfold resolvePending at member ⊢
  split at member
  · exact (contradicts member
      (by simp [EditsNoDraft, expiredOutcome, DomainCommand.editsDraft])).elim
  rename_i fresh
  rw [if_neg fresh]
  cases kind : pending.kind with
  | accountDeletion =>
      rw [kind] at member
      exact (contradicts member resolveDeletionPending_editsNoDraft).elim
  | manualExpense =>
      rw [kind] at member
      have isCommand : editCommand pending = .editManualExpense
          pending.referenceId pending.optimisticVersion := by
        funext edit
        simp [editCommand, kind]
      simp only [isCommand] at member ⊢
      rcases resolveManualPending_cases with isEdit | nothing
      · rw [isEdit] at member ⊢
        exact ⟨nofun, applyEdit_edit .editManualExpense member⟩
      · exact (contradicts member nothing).elim
  | receiptReview =>
      rw [kind] at member
      have isCommand : editCommand pending = .editReceiptDraft
          pending.referenceId pending.optimisticVersion := by
        funext edit
        simp [editCommand, kind]
      simp only [isCommand] at member ⊢
      rcases resolveReceiptPending_cases with isEdit | nothing
      · rw [isEdit] at member ⊢
        exact ⟨nofun, applyEdit_edit .editReceiptDraft member⟩
      · exact (contradicts member nothing).elim

/-- An outcome that edits a draft. -/
structure EditsPending (tables : TextTables) (zones : ZoneLibrary)
    (texts : CardTexts) (context : AccountContext) (text : String)
    (now : Timestamp) (pending : PendingConfirmation) (intent : Intent)
    (patch : DraftPatch) (outcome : ConversationOutcome) : Prop where
  isPending : context.pending = some pending
  aboutDraft : pending.kind ≠ .accountDeletion
  read : parseIntentChecked tables text context.defaultCurrency = .ok intent
  patched : draftPatchFromIntent zones texts (Locale.parse context.locale)
    pending intent now context.timezone = some patch
  isOutcome : outcome = ⟨[.card patch.card], [editCommand pending patch.edit]⟩

/-- A decision that edits a draft edits the pending one. -/
theorem decided_edit
    (decided : decideChecked tables zones texts context text now =
      .ok outcome)
    (member : command ∈ outcome.commands)
    (edits : command.editsDraft = true) :
    ∃ pending intent patch, EditsPending tables zones texts context text now
      pending intent patch outcome := by
  have contradicts {found : ConversationOutcome}
      (nothing : EditsNoDraft found) (same : found = outcome) : False := by
    subst same
    rw [nothing command member] at edits
    cases edits
  unfold decideChecked at decided
  split at decided
  · cases decided
    cases member
  split at decided
  · cases decided
    cases member
  · exfalso
    unfold handlePendingConsentChecked at decided
    cases read : parseIntentChecked tables text "VND" with
    | error panic =>
        rw [read] at decided
        cases decided
    | ok intent =>
        rw [read, ok_bind] at decided
        split at decided
        · cases decided
          simp only [List.mem_singleton] at member
          subst member
          cases edits
        · cases decided
          cases member
        · exact contradicts (handleSetLanguage_editsNoDraft intent)
            (Except.ok.inj decided)
        · cases decided
          cases member
  · unfold handleActiveChecked at decided
    cases read : parseIntentChecked tables text context.defaultCurrency with
    | error panic =>
        rw [read] at decided
        cases decided
    | ok intent =>
        rw [read, ok_bind] at decided
        split at decided
        · rename_i pending isPending
          split at decided
          · have same := Except.ok.inj decided
            exact (contradicts
              (handleCommand_editsNoDraft zones texts context intent now)
              same).elim
          split at decided
          · cases decided
            simp only [expiredOutcome, if_true, List.mem_singleton] at member
            subst member
            cases edits
          · have same := Except.ok.inj decided
            subst same
            obtain ⟨aboutDraft, patch, patched, isOutcome⟩ :=
              resolvePending_edit member edits
            exact ⟨pending, intent, patch, isPending, aboutDraft, read, patched,
              isOutcome⟩
        · have same := Except.ok.inj decided
          exact (contradicts
            (handleCommand_editsNoDraft zones texts context intent now)
            same).elim

end Decisions

end Conversation

end ZaloBot
