import ZaloBot.BotDecisions
import ZaloBot.ExpenseHistories

/-!
# Answers to prompts

A reply that settles a draft is decided from the pending action of the
conversation, and clears it under the version it was read with.  So it commits
only while that action is still pending, and at most one reply settles a prompt.
The confirmation of a deletion names no version: it is decided from a prompt
that the conversation has held, and may commit after that prompt is gone.
-/

namespace ZaloBot

open Sessions LabelledRuns TaskPool

/-- The prompt that an effect settles, by kind and reference. -/
def IngressEffect.settles :
    IngressEffect → Option (PendingActionType × Uuid)
  | .confirmExpense expenseId _ | .rejectExpense expenseId _ =>
      some (.manualExpenseConfirmation, expenseId)
  | .confirmReceipt submissionId _ _ | .rejectReceipt submissionId _ =>
      some (.receiptReview, submissionId)
  | _ => none

namespace Conversation

/-- The confirmation that a command settles, by kind and reference. -/
def DomainCommand.settles : DomainCommand → Option (PendingKind × Uuid)
  | .confirmExpense expenseId _ | .rejectExpense expenseId _ =>
      some (.manualExpense, expenseId)
  | .confirmReceipt submissionId _ _ | .rejectReceipt submissionId _ =>
      some (.receiptReview, submissionId)
  | _ => none

/-- What settles a draft clears the pending action. -/
def ClearsWhatItSettles (outcome : ConversationOutcome) : Prop :=
  ∀ command ∈ outcome.commands, command.settles.isSome = true →
    .clearPending ∈ outcome.commands

section Commands

variable {library : TextLibrary} {zones : ZoneLibrary} {texts : CardTexts}
  {context : AccountContext} {pending : PendingConfirmation}
  {intent : Intent} {now : Timestamp} {text : String}

theorem DomainCommand.resolves_of_settles {command : DomainCommand}
    {kind : PendingKind} {reference : Uuid}
    (settles : command.settles = some (kind, reference)) :
    command.resolves = some kind ∧
      ∃ version, command.target = some (reference, version) := by
  cases command <;> simp_all [DomainCommand.settles, DomainCommand.resolves,
    DomainCommand.target]

theorem clears_of_resolvesNothing {outcome : ConversationOutcome}
    (nothing : ResolvesNothing outcome) : ClearsWhatItSettles outcome := by
  intro command member settles
  obtain ⟨⟨kind, reference⟩, isSettled⟩ :=
    Option.isSome_iff_exists.mp settles
  have other := nothing command member
  rw [(DomainCommand.resolves_of_settles isSettled).1] at other
  contradiction

theorem clears_applyEdit {edit : Uuid → Nat → DraftEdit → DomainCommand}
    (settlesNothing : ∀ reference version changes,
      (edit reference version changes).settles = none) :
    ClearsWhatItSettles (applyEdit zones texts edit context pending intent
      now) := by
  unfold applyEdit
  split
  · exact clears_of_resolvesNothing (resolvesNothing_replyOnly _)
  · intro command member settles
    rw [List.mem_singleton.mp member, settlesNothing] at settles
    contradiction

theorem clears_resolvePending :
    ClearsWhatItSettles (resolvePending zones texts context pending intent
      now) := by
  unfold resolvePending
  split
  · exact clears_of_resolvesNothing (resolvesNothing_expiredOutcome true)
  split
  · unfold resolveDeletionPending
    split
    · simp [ClearsWhatItSettles, DomainCommand.settles]
    · exact clears_of_resolvesNothing (resolvesNothing_single rfl)
    · exact clears_of_resolvesNothing (resolvesNothing_replyOnly _)
  · unfold resolveManualPending
    split
    · simp [ClearsWhatItSettles]
    · simp [ClearsWhatItSettles]
    · exact clears_applyEdit fun _ _ _ => rfl
    · exact clears_applyEdit fun _ _ _ => rfl
    · exact clears_applyEdit fun _ _ _ => rfl
    · exact clears_applyEdit fun _ _ _ => rfl
    · exact clears_applyEdit fun _ _ _ => rfl
    · exact clears_of_resolvesNothing (resolvesNothing_replyOnly _)
  · unfold resolveReceiptPending
    split
    · simp [ClearsWhatItSettles]
    · simp [ClearsWhatItSettles]
    · exact clears_applyEdit fun _ _ _ => rfl
    · exact clears_applyEdit fun _ _ _ => rfl
    · exact clears_applyEdit fun _ _ _ => rfl
    · exact clears_applyEdit fun _ _ _ => rfl
    · exact clears_applyEdit fun _ _ _ => rfl
    · exact clears_of_resolvesNothing (resolvesNothing_replyOnly _)

theorem clears_decide :
    ClearsWhatItSettles (Conversation.decide library zones texts context text
      now) := by
  unfold Conversation.decide
  split
  · exact clears_of_resolvesNothing (resolvesNothing_replyOnly _)
  split
  · exact clears_of_resolvesNothing (resolvesNothing_replyOnly _)
  · refine clears_of_resolvesNothing fun command member => ?_
    rcases handlePendingConsent_commands member with
      ⟨version, rfl, _⟩ | ⟨locale, rfl⟩ <;> rfl
  · unfold handleActive
    dsimp only
    split
    · split
      · exact clears_of_resolvesNothing resolvesNothing_handleCommand
      split
      · exact clears_of_resolvesNothing (resolvesNothing_expiredOutcome true)
      · exact clears_resolvePending
    · exact clears_of_resolvesNothing resolvesNothing_handleCommand

/-- What resolves a confirmation is authorised by the pending one. -/
theorem isAuthorised_of_decide {command : DomainCommand} {kind : PendingKind}
    (member : command ∈ (Conversation.decide library zones texts context text
      now).commands) (resolving : command.resolves = some kind) :
    ∃ pending, context.pending = some pending ∧ pending.kind = kind ∧
      now < pending.expiresAt ∧ ∀ target ∈ command.target,
        target = (pending.referenceId, pending.optimisticVersion) := by
  unfold Conversation.decide at member
  split at member
  · simp [replyOnly] at member
  rename_i allowed
  split at member
  · simp [replyOnly] at member
  · rcases handlePendingConsent_commands member with
      ⟨version, rfl, _⟩ | ⟨locale, rfl⟩ <;> contradiction
  · rename_i active
    obtain ⟨pending, isPending, isKind, fresh, _, target⟩ :=
      (handleActive_isAuthorised (by simpa using allowed) active member
        resolving).pending
    exact ⟨pending, isPending, isKind, fresh, target⟩

end Commands

end Conversation

namespace Ingress

open Conversation

/-- The action that the conversation stores for a kind of confirmation. -/
def actionTypeOf : PendingKind → PendingActionType
  | .manualExpense => .manualExpenseConfirmation
  | .receiptReview => .receiptReview
  | .accountDeletion => .accountDeletion

section Decisions

variable {texts : IngressTexts} {context : DecisionContext}
  {decision : DecisionOutput} {request : IngressRequest}
  {inboundEventId : Uuid} {version : Option Int}

theorem settles_of_mapCommand {command : DomainCommand}
    {effect : IngressEffect}
    (mapped : mapCommand version inboundEventId command = .ok effect)
    {actionType : PendingActionType} {reference : Uuid}
    (settles : effect.settles = some (actionType, reference)) :
    ∃ kind, command.settles = some (kind, reference) ∧
      actionType = actionTypeOf kind ∧ kind ≠ .accountDeletion := by
  cases command <;> simp only [mapCommand, tryI32] at mapped <;>
    first
    | (split at mapped <;> cases mapped <;>
        simp_all [IngressEffect.settles, DomainCommand.settles, actionTypeOf])
    | (cases mapped
       simp_all [IngressEffect.settles])

theorem confirmAccountDeletion_of_mapCommand {command : DomainCommand}
    (mapped : mapCommand version inboundEventId command =
      .ok .confirmAccountDeletion) : command = .confirmAccountDeletion := by
  cases command <;> simp only [mapCommand, tryI32] at mapped <;>
    first
    | rfl
    | (split at mapped <;> cases mapped)
    | cases mapped

/-- The pending action behind a confirmation. -/
theorem pendingAction_of_confirmation {earlier : BotStore → Prop}
    {accountId : Option Uuid} {confirmation : PendingConfirmation}
    (isFrom : ContextFrom earlier request accountId context)
    (isPending : pendingConfirmation texts context = some confirmation) :
    ∃ pending id, context.pendingAction = some pending ∧
      accountId = some id ∧ PendingFrom earlier id pending ∧
      confirmation.expiresAt = pending.expiresAt ∧
      pending.actionType = actionTypeOf confirmation.kind ∧
      (confirmation.kind ≠ .accountDeletion →
        pending.payloadRef = some confirmation.referenceId) := by
  unfold pendingConfirmation at isPending
  split at isPending
  · contradiction
  rename_i pending isAction
  obtain ⟨id, isAccount, stored⟩ := isFrom.pending pending isAction
  refine ⟨pending, id, isAction, isAccount, stored, ?_⟩
  split at isPending
  · rename_i deletion
    cases isPending
    exact ⟨rfl, deletion, fun other => absurd rfl other⟩
  · cases isExpense : pending.expense with
    | some expense =>
        simp only [isExpense, Option.map_some, Option.some_or,
          Option.some.injEq] at isPending
        subst isPending
        obtain ⟨isType, isReference⟩ := stored.expense expense isExpense
        exact ⟨rfl, isType, fun _ => isReference⟩
    | none =>
        simp only [isExpense, Option.map_none, Option.none_or,
          Option.map_eq_some_iff] at isPending
        obtain ⟨draft, isDraft, rfl⟩ := isPending
        obtain ⟨isType, isReference⟩ := stored.receiptDraft draft isDraft
        exact ⟨rfl, isType, fun _ => isReference⟩

/-- What resolves a confirmation is decided from the pending action. -/
theorem prompted_of_decide {earlier : BotStore → Prop}
    {accountId : Option Uuid} {command : DomainCommand} {kind : PendingKind}
    (isFrom : ContextFrom earlier request accountId context)
    (member : command ∈ (Conversation.decide texts.library texts.zones
      texts.cards (toConversationContext texts context) context.userText
      context.now).commands)
    (resolving : command.resolves = some kind) :
    ∃ pending id, context.pendingAction = some pending ∧
      accountId = some id ∧ PendingFrom earlier id pending ∧
      pending.actionType = actionTypeOf kind ∧
      request.observedAt < pending.expiresAt ∧
      (kind ≠ .accountDeletion → ∀ target ∈ command.target,
        pending.payloadRef = some target.1) := by
  obtain ⟨confirmation, isPending, rfl, fresh, target⟩ :=
    isAuthorised_of_decide member resolving
  obtain ⟨pending, id, isAction, isAccount, stored, expiry, isType,
    isReference⟩ := pendingAction_of_confirmation isFrom isPending
  refine ⟨pending, id, isAction, isAccount, stored, isType, ?_,
    fun notDeletion aimed isTarget => ?_⟩
  · rw [← expiry, ← isFrom.now]
    exact fresh
  · rw [target aimed isTarget]
    exact isReference notDeletion

/-- An effect that settles a draft is decided from the pending action, and
comes with its clearing. -/
theorem settled_of_decideText {earlier : BotStore → Prop}
    {accountId : Option Uuid} {effect : IngressEffect}
    (isFrom : ContextFrom earlier request accountId context)
    (decided : decideTextAndMap texts context = .ok decision)
    (member : effect ∈ decision.effects)
    {actionType : PendingActionType} {reference : Uuid}
    (settles : effect.settles = some (actionType, reference)) :
    ∃ pending id, context.pendingAction = some pending ∧
      accountId = some id ∧ PendingFrom earlier id pending ∧
      pending.actionType = actionType ∧
      pending.payloadRef = some reference ∧
      request.observedAt < pending.expiresAt ∧
      .clearPendingAction pending.version ∈ decision.effects := by
  obtain ⟨eventId, allMapped⟩ := mapped_of_mapOutcome decided
  obtain ⟨command, isCommand, mapped⟩ :=
    FallibleSteps.returnsRule_except.exists_of_mem_targets allMapped member
  obtain ⟨kind, isSettled, rfl, notDeletion⟩ :=
    settles_of_mapCommand mapped settles
  obtain ⟨resolving, expected, isTarget⟩ :=
    DomainCommand.resolves_of_settles isSettled
  obtain ⟨pending, id, isAction, isAccount, stored, isType, fresh,
    isReference⟩ := prompted_of_decide isFrom isCommand resolving
  have clears := clears_decide command isCommand (by simp [isSettled])
  obtain ⟨clearing, isClearing, mappedClearing⟩ :=
    FallibleSteps.returnsRule_except.exists_of_mem_sources allMapped clears
  simp only [isAction, Option.map_some, mapCommand] at mappedClearing
  cases mappedClearing
  exact ⟨pending, id, isAction, isAccount, stored, isType,
    isReference notDeletion _ isTarget, fresh, isClearing⟩

/-- Images settle nothing. -/
theorem unsettled_of_decideImage {effect : IngressEffect}
    (decided : decideImageAndMap texts context = .ok decision)
    (member : effect ∈ decision.effects) :
    effect.settles = none ∧ effect ≠ .confirmAccountDeletion := by
  obtain ⟨command, isCommand, eventId, mapped⟩ :=
    effects_of_mapOutcome decided effect member
  have nothing := resolvesNothing_decideImage command isCommand
  constructor
  · by_contra settles
    obtain ⟨⟨actionType, reference⟩, isSettled⟩ :=
      Option.ne_none_iff_exists'.mp settles
    obtain ⟨kind, isKind, _⟩ := settles_of_mapCommand mapped isSettled
    rw [(DomainCommand.resolves_of_settles isKind).1] at nothing
    contradiction
  · rintro rfl
    rw [confirmAccountDeletion_of_mapCommand mapped] at nothing
    contradiction

end Decisions

section Prompts

/-- The pending action was read in an earlier store. -/
def HeldPrompt (before : BotStore) (id : Uuid) (version : Int)
    (prompt : PendingColumns) : Prop :=
  ∃ older, Progresses older before ∧
    older (.conversationState id) = some ⟨some prompt, version⟩

/-- A prompt that is cleared is still pending when the clearing commits. -/
theorem HeldPrompt.stands {origin before after : BotStore}
    {event : IngressEvent} {request : IngressRequest} {id : Uuid}
    {version : Int} {prompt : PendingColumns} {effects : List IngressEffect}
    (held : HeldPrompt before id version prompt)
    (commits : CommitsEvent origin before event after)
    (isEvent : event = .processed request (some id) effects)
    (clears : .clearPendingAction version ∈ effects) :
    before (.conversationState id) = some ⟨some prompt, version⟩ := by
  obtain ⟨older, progresses, isOlder⟩ := held
  obtain ⟨row, present, grows, same⟩ :=
    progresses.conversation id _ isOlder
  have leaves : Leaves version (before (.conversationState id))
      (after (.conversationState id)) :=
    commits.performed request id effects isEvent _ clears
  rw [present, same (le_antisymm (leaves.1 row present) grows)]

end Prompts

section Runs

variable {initial : BotStore}
  {pool : Pool (Database BotRow IngressEvent)
    (SessionTask BotRow IngressEvent IngressFailure IngressAnswer)}

/-- An account that has been asked whether an expense is right. -/
def promptStore : BotStore
  | .conversationState ⟨"account"⟩ =>
      some ⟨some ⟨.manualExpenseConfirmation, some ⟨"phở"⟩, 900⟩, 1⟩
  | .expense ⟨"phở"⟩ =>
      some (manualExpense ⟨"account"⟩ 50000 "VND" "phở" 0 1)
  | key => memberStore key

/-- A reply of the account. -/
def replyRequest (eventId text : String) : IngressRequest :=
  { memberRequest with providerEventId := eventId, userText := text }

def replyCall (eventId text : String) : BotCall :=
  .text { dailyProcess with eventId := ⟨eventId⟩ } (replyRequest eventId text)
    shortTexts

/-- Two replies to one prompt: the first has read the prompt when the second
is processed. -/
def duelRun (first second : String) (before during after : Nat) :
    List (Nat × SessionLabel BotCall) :=
  List.flatten [[(0, .begin (replyCall "first" first)),
      (1, .begin (replyCall "second" second))],
    .replicate before (0, .advance), .replicate during (1, .advance),
    .replicate after (0, .advance)]

end Runs

end Ingress

end ZaloBot
