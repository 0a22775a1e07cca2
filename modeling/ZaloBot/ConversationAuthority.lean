import Mathlib.Tactic.Common
import ZaloBot.ConversationDecisions

/-!
# What the bot may decide to do

Which decisions an account may bring about: nothing without being allowlisted
or while suspended, consent and language while consent is pending, and the
resolution of a pending confirmation only while it is open, in its own kind and
version, and for an intent that asks for it.
-/

namespace ZaloBot

namespace Conversation

namespace DomainCommand

/-- The kind of confirmation that a command resolves or edits. -/
def resolves : DomainCommand → Option PendingKind
  | confirmExpense _ _ | rejectExpense _ _ | editManualExpense _ _ _ =>
      some .manualExpense
  | confirmReceipt _ _ _ | rejectReceipt _ _ | editReceiptDraft _ _ _ =>
      some .receiptReview
  | confirmAccountDeletion => some .accountDeletion
  | _ => none

/-- The reference and the version that a command carries. -/
def target : DomainCommand → Option (Uuid × Nat)
  | confirmExpense id version | rejectExpense id version
  | editManualExpense id version _ | confirmReceipt id _ version
  | rejectReceipt id version | editReceiptDraft id version _ =>
      some (id, version)
  | _ => none

/-- The intent without which a command is not produced. -/
def needs : DomainCommand → Option IntentKind
  | confirmExpense _ _ | confirmReceipt _ _ _ | confirmAccountDeletion =>
      some .confirm
  | rejectExpense _ _ | rejectReceipt _ _ => some .discard
  | _ => none

end DomainCommand

/-- What a command that resolves a confirmation requires. -/
structure IsAuthorised (context : AccountContext) (asked : IntentKind)
    (now : Timestamp) (kind : PendingKind) (command : DomainCommand) :
    Prop where
  allowlisted : context.allowlisted = true
  active : context.lifecycle = .active
  pending : ∃ pending, context.pending = some pending ∧
    pending.kind = kind ∧ now < pending.expiresAt ∧
    pending.optimisticVersion = pending.draft.version ∧
    ∀ target ∈ command.target,
      target = (pending.referenceId, pending.optimisticVersion)
  asked : ∀ needed ∈ command.needs, asked = needed

/-- An outcome that resolves no confirmation. -/
def ResolvesNothing (outcome : ConversationOutcome) : Prop :=
  ∀ command ∈ outcome.commands, command.resolves = none

section Commands

variable {library : TextLibrary} {zones : ZoneLibrary} {texts : CardTexts}
variable {context : AccountContext} {pending : PendingConfirmation}
variable {intent : Intent} {now : Timestamp} {command : DomainCommand}

theorem resolvesNothing_replyOnly (reply : ReplyPlan) :
    ResolvesNothing (replyOnly reply) := by
  simp [ResolvesNothing, replyOnly]

theorem resolvesNothing_single {replies : List ReplyPlan}
    (other : command.resolves = none) :
    ResolvesNothing ⟨replies, [command]⟩ := by
  simpa [ResolvesNothing] using other

theorem resolvesNothing_expiredOutcome (clears : Bool) :
    ResolvesNothing (expiredOutcome clears) := by
  cases clears <;> simp [ResolvesNothing, expiredOutcome, DomainCommand.resolves]

theorem resolvesNothing_handleSetLanguage :
    ResolvesNothing (handleSetLanguage intent) := by
  unfold handleSetLanguage
  split
  · exact resolvesNothing_replyOnly _
  · exact resolvesNothing_single rfl

theorem resolvesNothing_handleSettings :
    ResolvesNothing (handleSettings context intent) := by
  unfold handleSettings
  split <;> exact resolvesNothing_replyOnly _

theorem resolvesNothing_handleTimezone :
    ResolvesNothing (handleTimezone zones context intent) := by
  unfold handleTimezone
  split
  · exact resolvesNothing_replyOnly _
  · exact resolvesNothing_single rfl

theorem resolvesNothing_handleSchedule :
    ResolvesNothing (handleSchedule context intent) := by
  unfold handleSchedule
  split
  · exact resolvesNothing_single rfl
  split
  · exact resolvesNothing_single rfl
  split
  · exact resolvesNothing_replyOnly _
  split
  · exact resolvesNothing_replyOnly _
  · exact resolvesNothing_single rfl

theorem resolvesNothing_handleRecategorize :
    ResolvesNothing (handleRecategorize context intent) := by
  unfold handleRecategorize
  split
  · exact resolvesNothing_replyOnly _
  dsimp only
  split
  · exact resolvesNothing_replyOnly _
  · exact resolvesNothing_single rfl

/-- A command without a pending action in its way resolves nothing. -/
theorem resolvesNothing_handleCommand :
    ResolvesNothing (handleCommand zones texts context intent now) := by
  unfold handleCommand
  cases intent.kind with
  | settings => exact resolvesNothing_handleSettings
  | timezone => exact resolvesNothing_handleTimezone
  | schedule => exact resolvesNothing_handleSchedule
  | setLanguage => exact resolvesNothing_handleSetLanguage
  | recategorizeLatest => exact resolvesNothing_handleRecategorize
  | today | week | month | «export» | delete | manualEntry =>
      exact resolvesNothing_single rfl
  | confirm | discard | editAmount | editMerchant | editCategory | editDate
  | editType => exact resolvesNothing_expiredOutcome false
  | _ => exact resolvesNothing_replyOnly _

theorem resolvesNothing_decideImage :
    ResolvesNothing (decideImage context) := by
  unfold decideImage
  split
  · exact resolvesNothing_replyOnly _
  split
  · exact resolvesNothing_replyOnly _
  · exact resolvesNothing_replyOnly _
  split
  · exact resolvesNothing_replyOnly _
  · exact resolvesNothing_single rfl

end Commands

section Resolution

variable {library : TextLibrary} {zones : ZoneLibrary} {texts : CardTexts}
variable {context : AccountContext} {pending : PendingConfirmation}
variable {intent : Intent} {now : Timestamp}

/-- A command for a pending confirmation: it carries its reference and its
version, and the intent that it needs was expressed. -/
structure Resolves (pending : PendingConfirmation) (asked : IntentKind)
    (command : DomainCommand) : Prop where
  kind : ∀ kind ∈ command.resolves, pending.kind = kind
  target : ∀ target ∈ command.target,
    target = (pending.referenceId, pending.optimisticVersion)
  asked : ∀ needed ∈ command.needs, asked = needed

variable {asked : IntentKind}

theorem resolves_of_resolvesNothing {outcome : ConversationOutcome}
    (nothing : ResolvesNothing outcome) :
    ∀ command ∈ outcome.commands, Resolves pending asked command := by
  intro command member
  have other := nothing command member
  cases command <;>
    first
    | contradiction
    | exact ⟨nofun, nofun, nofun⟩

theorem resolves_clearPending : Resolves pending asked .clearPending :=
  ⟨nofun, nofun, nofun⟩

/-- A command with the reference and the version of the confirmation. -/
theorem resolves_of_target {command : DomainCommand}
    (kind : command.resolves = some pending.kind)
    (target : command.target =
      some (pending.referenceId, pending.optimisticVersion))
    (needs : ∀ needed ∈ command.needs, asked = needed) :
    Resolves pending asked command := by
  refine ⟨?_, ?_, needs⟩
  · rw [kind]
    rintro _ ⟨⟩
    rfl
  · rw [target]
    rintro _ ⟨⟩
    rfl

/-- An edit. -/
theorem applyEdit_resolves
    {edit : Uuid → Nat → DraftEdit → DomainCommand}
    (resolves : ∀ changes, Resolves pending asked
      (edit pending.referenceId pending.optimisticVersion changes)) :
    ∀ command ∈ (applyEdit zones texts edit context pending intent
      now).commands, Resolves pending asked command := by
  unfold applyEdit
  split
  · exact resolves_of_resolvesNothing (resolvesNothing_replyOnly _)
  · intro command member
    rw [List.mem_singleton.mp member]
    exact resolves _

/-- A command that is followed by the clearing of the confirmation. -/
theorem resolves_and_clears {first : DomainCommand}
    (resolves : Resolves pending asked first) :
    ∀ command ∈ [first, .clearPending], Resolves pending asked command := by
  intro command member
  rcases List.mem_pair.mp member with rfl | rfl
  · exact resolves
  · exact resolves_clearPending

theorem resolveManualPending_resolves
    (manual : pending.kind = .manualExpense) :
    ∀ command ∈ (resolveManualPending zones texts context pending intent
      now).commands, Resolves pending intent.kind command := by
  have edits (asked : IntentKind) (changes : DraftEdit) :
      Resolves pending asked (.editManualExpense pending.referenceId
        pending.optimisticVersion changes) :=
    resolves_of_target (by rw [manual]; rfl) rfl nofun
  unfold resolveManualPending
  cases intent.kind with
  | confirm =>
      refine resolves_and_clears (resolves_of_target (by rw [manual]; rfl) rfl ?_)
      rintro _ ⟨⟩
      rfl
  | discard =>
      refine resolves_and_clears (resolves_of_target (by rw [manual]; rfl) rfl ?_)
      rintro _ ⟨⟩
      rfl
  | editAmount | editMerchant | editCategory | editDate | editType =>
      exact applyEdit_resolves (edits _)
  | _ => exact resolves_of_resolvesNothing (resolvesNothing_replyOnly _)

theorem resolveReceiptPending_resolves
    (receipt : pending.kind = .receiptReview) :
    ∀ command ∈ (resolveReceiptPending zones texts context pending intent
      now).commands, Resolves pending intent.kind command := by
  have edits (asked : IntentKind) (changes : DraftEdit) :
      Resolves pending asked (.editReceiptDraft pending.referenceId
        pending.optimisticVersion changes) :=
    resolves_of_target (by rw [receipt]; rfl) rfl nofun
  unfold resolveReceiptPending
  cases intent.kind with
  | confirm =>
      refine resolves_and_clears
        (resolves_of_target (by rw [receipt]; rfl) rfl ?_)
      rintro _ ⟨⟩
      rfl
  | discard =>
      refine resolves_and_clears
        (resolves_of_target (by rw [receipt]; rfl) rfl ?_)
      rintro _ ⟨⟩
      rfl
  | editAmount | editMerchant | editCategory | editDate | editType =>
      exact applyEdit_resolves (edits _)
  | _ => exact resolves_of_resolvesNothing (resolvesNothing_replyOnly _)

theorem resolveDeletionPending_resolves
    (deletion : pending.kind = .accountDeletion) :
    ∀ command ∈ (resolveDeletionPending context intent).commands,
      Resolves pending intent.kind command := by
  unfold resolveDeletionPending
  cases intent.kind with
  | confirm =>
      intro command member
      rw [List.mem_singleton.mp member]
      refine ⟨?_, nofun, ?_⟩
      · rintro _ ⟨⟩
        exact deletion
      · rintro _ ⟨⟩
        rfl
  | discard => exact resolves_of_resolvesNothing (resolvesNothing_single rfl)
  | _ => exact resolves_of_resolvesNothing (resolvesNothing_replyOnly _)

/-- What an open confirmation of an up-to-date draft is resolved by. -/
theorem resolvePending_resolves :
    ∀ command ∈ (resolvePending zones texts context pending intent
      now).commands, Resolves pending intent.kind command := by
  unfold resolvePending
  split
  · exact resolves_of_resolvesNothing (resolvesNothing_expiredOutcome true)
  · split
    · rename_i deletion
      exact resolveDeletionPending_resolves deletion
    · rename_i manual
      exact resolveManualPending_resolves manual
    · rename_i receipt
      exact resolveReceiptPending_resolves receipt

/-- Commands that resolve a confirmation of an active account. -/
theorem handleActive_isAuthorised {text : String} {command : DomainCommand}
    {kind : PendingKind} (allowlisted : context.allowlisted = true)
    (active : context.lifecycle = .active)
    (member : command ∈ (handleActive library zones texts context text
      now).commands)
    (resolving : command.resolves = some kind) :
    IsAuthorised context (parseIntent library text
      context.defaultCurrency).kind now kind command := by
  have unresolving {outcome : ConversationOutcome}
      (nothing : ResolvesNothing outcome)
      (produced : command ∈ outcome.commands) : False := by
    rw [nothing command produced] at resolving
    contradiction
  unfold handleActive at member
  dsimp only at member
  split at member
  · rename_i pending isPending
    split at member
    · exact (unresolving resolvesNothing_handleCommand member).elim
    split at member
    · exact (unresolving (resolvesNothing_expiredOutcome true) member).elim
    rename_i fresh
    simp only [isPendingStale, ne_eq, decide_not, Bool.or_eq_true,
      decide_eq_true_eq, Bool.not_eq_eq_eq_not, Bool.not_true,
      decide_eq_false_iff_not, not_or, not_not] at fresh
    have resolves := resolvePending_resolves command member
    exact ⟨allowlisted, active, ⟨pending, isPending,
      resolves.kind kind resolving, Int.not_le.mp fresh.1, fresh.2,
      resolves.target⟩,
      resolves.asked⟩
  · exact (unresolving resolvesNothing_handleCommand member).elim

/-- While consent is pending. -/
theorem handlePendingConsent_commands {text : String}
    {command : DomainCommand}
    (member : command ∈ (handlePendingConsent library context text).commands) :
    (∃ version, command = .grantConsent version ∧
      (parseIntent library text "VND").kind = .confirm) ∨
    ∃ locale, command = .setLocale locale := by
  unfold handlePendingConsent at member
  dsimp only at member
  split at member
  · rename_i confirms
    exact Or.inl ⟨_, List.mem_singleton.mp member, confirms⟩
  · simp [replyOnly] at member
  · unfold handleSetLanguage at member
    split at member
    · simp [replyOnly] at member
    · exact Or.inr ⟨_, List.mem_singleton.mp member⟩
  · simp [replyOnly] at member

end Resolution

/-- The authority of `decide` and `decide_image`: nothing is decided for a
sender that is not allowlisted or suspended; consent and language while consent
is pending; a confirmation is resolved or edited only as authorised; and a
confirmation that is expired or outdated is cleared by everything but an
explicit slash command. -/
theorem decisions_are_authorised (library : TextLibrary) (zones : ZoneLibrary)
    (texts : CardTexts) (context : AccountContext) (text : String)
    (now : Timestamp) :
    (context.allowlisted = false ∨ context.lifecycle = .suspended →
      (decide library zones texts context text now).commands = [] ∧
        (decideImage context).commands = []) ∧
    (context.lifecycle = .pendingConsent →
      (∀ command ∈ (decide library zones texts context text now).commands,
        (∃ version, command = .grantConsent version ∧
          (parseIntent library text "VND").kind = .confirm) ∨
        ∃ locale, command = .setLocale locale) ∧
      (decideImage context).commands = []) ∧
    (∀ command ∈ (decide library zones texts context text now).commands,
      ∀ kind, command.resolves = some kind →
        IsAuthorised context (parseIntent library text
          context.defaultCurrency).kind now kind command) ∧
    (∀ command ∈ (decideImage context).commands,
      command.resolves = none) ∧
    (context.allowlisted = true → context.lifecycle = .active →
      ∀ pending, context.pending = some pending →
        (pending.expiresAt ≤ now ∨
          pending.optimisticVersion ≠ pending.draft.version) →
        isSlashCommand text (parseIntent library text
          context.defaultCurrency).kind = false →
        (decide library zones texts context text now).commands =
          [.clearPending]) := by
  refine ⟨?_, ?_, ?_, resolvesNothing_decideImage, ?_⟩
  · rintro (outside | suspended)
    · simp [decide, decideImage, outside, replyOnly]
    · simp only [decide, decideImage, suspended]
      split <;> exact ⟨rfl, rfl⟩
  · intro consentPending
    cases allowlisted : context.allowlisted with
    | false => simp [decide, decideImage, allowlisted, replyOnly]
    | true =>
        refine ⟨fun command member => ?_, ?_⟩
        · have consenting : command ∈ (handlePendingConsent library context
              text).commands := by
            simpa [decide, allowlisted, consentPending] using member
          exact handlePendingConsent_commands consenting
        · simp [decideImage, allowlisted, consentPending, replyOnly]
  · intro command member kind resolving
    cases allowlisted : context.allowlisted with
    | false => simp [decide, allowlisted, replyOnly] at member
    | true =>
        cases posture : context.lifecycle with
        | suspended => simp [decide, allowlisted, posture, replyOnly] at member
        | active =>
            have active : command ∈ (handleActive library zones texts context
                text now).commands := by
              simpa [decide, allowlisted, posture] using member
            exact handleActive_isAuthorised allowlisted posture active
              resolving
        | pendingConsent =>
            have consenting : command ∈ (handlePendingConsent library context
                text).commands := by
              simpa [decide, allowlisted, posture] using member
            rcases handlePendingConsent_commands consenting with
              ⟨version, rfl, _⟩ | ⟨locale, rfl⟩ <;> contradiction
  · intro allowlisted active pending isPending stale plain
    have isStale : isPendingStale pending now = true := by
      simpa [isPendingStale] using stale
    simp [decide, allowlisted, active, handleActive, isPending, plain, isStale,
      expiredOutcome]

end Conversation

end ZaloBot
