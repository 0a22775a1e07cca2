import ZaloBot.PromptAnswers

/-!
# Replies to one prompt

Messages that were all decided from the same unexpired pending action run side
by side.  Those that settle the draft or cancel the prompt clear it under its
version, so at most one of them commits.  The confirmation of a deletion does
not check the version: it commits even when the prompt has been answered.  As
long as it does not, at most one reply commits.
-/

namespace ZaloBot

open Sessions LabelledRuns TaskPool

/-- An effect that resolves a prompt: it settles the draft, confirms the
deletion or clears the pending action. -/
def IngressEffect.resolvesPrompt : IngressEffect → Bool
  | .confirmAccountDeletion | .clearPendingAction _ => true
  | effect => effect.settles.isSome

namespace Ingress

open Conversation

section Replies

variable (id : Uuid) (version : Int)

/-- Decisions on one unexpired prompt only. -/
def onPrompt
    (decide : DecisionContext → Except IngressEffectError DecisionOutput)
    (context : DecisionContext) : Except IngressEffectError DecisionOutput :=
  if context.accountId = some id ∧ context.pendingAction.any (fun pending =>
      pending.version = version && context.now < pending.expiresAt) = true then
    decide context
  else
    .error .versionConflict

/-- A call of the bot whose decision is on the prompt. -/
def serveReply : BotCall →
    Session BotRow IngressEvent IngressFailure IngressAnswer
  | .text environment request texts =>
      serve (.process environment request ⟨.textCommandEnvelope, none⟩
        (onPrompt id version (decideTextAndMap texts)))
  | .image environment request texts mediaUrl =>
      if environment.effects.receipts then
        serve (.process environment request ⟨.imageReceived, some mediaUrl⟩
          (onPrompt id version (decideImageAndMap texts)))
      else
        .fail (.process ⟨"receipt lifecycle is required for images"⟩)
  | .switch mode => serve (.switch mode)

/-- A publication resolves the prompt of the account. -/
def ResolvesPrompt (publication : Publication BotRow IngressEvent) : Prop :=
  ∃ request effects, publication.event = .processed request (some id) effects ∧
    ∃ effect ∈ effects, effect.resolvesPrompt = true

/-- What is decided on the prompt. -/
def decidedOnPrompt : EffectsCondition :=
  fun _ _ accountId effects =>
    accountId = some id ∧
    (∀ effect ∈ effects, effect.resolvesPrompt = true →
      effect = .confirmAccountDeletion ∨
        .clearPendingAction version ∈ effects)

/-- A deletion is confirmed while the conversation has the version of the
prompt. -/
def confirmsStanding (before : BotStore) (event : IngressEvent) : Prop :=
  match event with
  | .processed _ _ effects =>
      .confirmAccountDeletion ∈ effects →
        ∃ row, before (.conversationState id) = some row ∧
          row.version = version
  | _ => True

end Replies

section Deciding

variable {id : Uuid} {version : Int} {texts : IngressTexts}
  {request : IngressRequest}

theorem eq_clearPending_of_mapCommand {stateVersion : Option Int}
    {inboundEventId : Uuid} {command : DomainCommand} {cleared : Int}
    (mapped : mapCommand stateVersion inboundEventId command =
      .ok (.clearPendingAction cleared)) : stateVersion = some cleared := by
  cases command <;> simp only [mapCommand, tryI32] at mapped <;>
    first
    | (split at mapped <;> cases mapped <;> rfl)
    | cases mapped

variable {context : DecisionContext} {decision : DecisionOutput}

/-- On the prompt, only its own version is cleared. -/
theorem clears_prompt {outcome : ConversationOutcome} {cleared : Int}
    (mapped : mapOutcome texts outcome context = .ok decision)
    (isPrompt : context.pendingAction.any (fun pending =>
      pending.version = version && context.now < pending.expiresAt) = true)
    (isCleared : .clearPendingAction cleared ∈ decision.effects) :
    .clearPendingAction version ∈ decision.effects := by
  obtain ⟨command, _, eventId, mappedCommand⟩ :=
    effects_of_mapOutcome mapped _ isCleared
  obtain ⟨pending, isAction, rfl⟩ := Option.map_eq_some_iff.mp
    (eq_clearPending_of_mapCommand mappedCommand)
  simp only [isAction, Option.any_some, Bool.and_eq_true,
    decide_eq_true_eq] at isPrompt
  rwa [isPrompt.1] at isCleared

theorem onPrompt_eq_ok
    {decide : DecisionContext → Except IngressEffectError DecisionOutput}
    (decided : onPrompt id version decide context = .ok decision) :
    context.accountId = some id ∧
      context.pendingAction.any (fun pending =>
        pending.version = version && context.now < pending.expiresAt) = true ∧
      decide context = .ok decision := by
  unfold onPrompt at decided
  split at decided
  · rename_i guard
    exact ⟨guard.1, guard.2, decided⟩
  · contradiction

theorem decides_onPrompt_text :
    Decides (decidedOnPrompt id version) request
      (onPrompt id version (decideTextAndMap texts)) := by
  intro store accountId context decision isFrom decided
  obtain ⟨isAccount, isPrompt, decided⟩ := onPrompt_eq_ok decided
  refine ⟨isFrom.account.symm.trans isAccount, fun effect member resolves => ?_⟩
  cases isSettled : effect.settles with
  | some target =>
      obtain ⟨pending, _, _, _, _, _, _, _, clears⟩ :=
        settled_of_decideText isFrom decided member isSettled
      exact .inr (clears_prompt decided isPrompt clears)
  | none =>
      cases effect with
      | clearPendingAction other =>
          exact .inr (clears_prompt decided isPrompt member)
      | confirmAccountDeletion => exact .inl rfl
      | _ => simp_all [IngressEffect.resolvesPrompt]

theorem decides_onPrompt_image :
    Decides (decidedOnPrompt id version) request
      (onPrompt id version (decideImageAndMap texts)) := by
  intro store accountId context decision isFrom decided
  obtain ⟨isAccount, isPrompt, decided⟩ := onPrompt_eq_ok decided
  refine ⟨isFrom.account.symm.trans isAccount, fun effect member resolves => ?_⟩
  have nothing := unsettled_of_decideImage decided member
  cases effect with
  | clearPendingAction other =>
      exact .inr (clears_prompt decided isPrompt member)
  | confirmAccountDeletion => exact .inl rfl
  | _ => simp_all [IngressEffect.resolvesPrompt]

end Deciding

section Runs

variable {id : Uuid} {version : Int} {initial : BotStore}
  {pool : Pool (Database BotRow IngressEvent)
    (SessionTask BotRow IngressEvent IngressFailure IngressAnswer)}

theorem wp_serveReply (call : BotCall) {store : BotStore}
    (holds : Progresses initial store) :
    (historyRules initial (confirmsStanding id version)
      (decidedOnPrompt id version) IngressFailure).wp
        (serveReply id version call) Overlay.none store fun _ _ _ => True := by
  cases call with
  | text environment request texts =>
      have accepts : Accepts (historyRules initial
          (confirmsStanding id version) (decidedOnPrompt id version)
          IngressFailure) (.process environment request
            ⟨.textCommandEnvelope, none⟩
            (onPrompt id version (decideTextAndMap texts))) :=
        accepts_of_decides decides_onPrompt_text
      exact wp_serve accepts holds
  | image environment request texts mediaUrl =>
      have accepts : Accepts (historyRules initial
          (confirmsStanding id version) (decidedOnPrompt id version)
          IngressFailure) (.process environment request
            ⟨.imageReceived, some mediaUrl⟩
            (onPrompt id version (decideImageAndMap texts))) :=
        accepts_of_decides decides_onPrompt_image
      unfold serveReply
      dsimp only
      split
      · exact wp_serve accepts holds
      · exact trivial
  | switch mode =>
      have accepts : Accepts (historyRules initial
          (confirmsStanding id version) (decidedOnPrompt id version)
          IngressFailure) (.switch mode) := acceptsSwitch_history
      exact wp_serve accepts holds

/-- A reply that commits finds the version of the prompt and leaves it. -/
theorem replaces_of_resolves {publication : Publication BotRow IngressEvent}
    (present : (initial (.conversationState id)).isSome = true)
    (commits : CommitsEvent initial publication.before publication.event
      publication.after)
    (decided : (decidedOnPrompt id version).Of publication.before
      publication.event)
    (standing : confirmsStanding id version publication.before
      publication.event)
    (resolves : ResolvesPrompt id publication) :
    ¬ IsReplaced id version publication.before ∧
      IsReplaced id version publication.after := by
  obtain ⟨request, effects, isEvent, effect, member, resolving⟩ := resolves
  rcases (decided request _ effects isEvent).2 effect member resolving with
    rfl | clears
  · rw [isEvent] at standing
    obtain ⟨row, isRow, rfl⟩ := standing member
    have renews : Renews (publication.before (.conversationState id))
        (publication.after (.conversationState id)) :=
      commits.performed request id effects isEvent _ member present
    refine ⟨?_, renews row isRow⟩
    rintro ⟨other, isOther, newer⟩
    rw [isRow] at isOther
    cases isOther
    exact newer.false
  · exact commits.clears ⟨request, effects, isEvent, clears⟩

theorem commitsOnce_serveReply (call : BotCall) :
    (serveReply id version call).CommitsOnce ReportsAnswer := by
  cases call with
  | text environment request texts =>
      exact commitsOnce_serve (.process environment request _ _)
  | image environment request texts mediaUrl =>
      unfold serveReply
      dsimp only
      split
      · exact commitsOnce_serve _
      · trivial
  | switch mode => exact commitsOnce_serve (.switch mode)

/-- Messages decided on one prompt run side by side, and no deletion is
confirmed after the conversation has left the prompt.  Then at most one reply
that resolves the prompt commits, and a call that returns an error has changed
nothing. -/
theorem replies_resolve_once
    (present : (initial (.conversationState id)).isSome = true)
    (run : Reaches (poolStep (sessionAct (serveReply id version)))
      (publishesOnly (confirmsStanding id version))
      (Pool.idle (Database.fresh initial)) pool) :
    (pool.world.log.Pairwise fun later earlier =>
      ¬ (ResolvesPrompt id later ∧ ResolvesPrompt id earlier)) ∧
    (Reaches (poolStep (sessionAct (serveReply id version))) acknowledged
        (Pool.idle (Database.fresh initial)) pool → ∀ owner,
      (∀ error, pool.tasks owner = some (.ended (.error error)) →
        publishedBy pool.world owner = []) ∧
      ∀ answer, pool.tasks owner = some (.ended (.ok answer)) →
        ∃ publication, publishedBy pool.world owner = [publication] ∧
          ReportsAnswer publication.event answer) := by
  have history := history_of_verified
    (fun call _ holds => wp_serveReply call holds)
    (fun _ _ isAllowed => isAllowed) run
  refine ⟨(history.spends_once (ResolvesPrompt id) (IsReplaced id version)
    IsReplaced.of_progresses fun publication _ standing guaranteed resolves =>
      replaces_of_resolves present guaranteed.1 guaranteed.2 standing
        resolves).1, fun acknowledgedRun owner => ?_⟩
  have reported := reported_of_reaches commitsOnce_serveReply
    (fun _ _ isAllowed => isAllowed) acknowledgedRun owner
  refine ⟨fun error ended => ?_, fun answer ended => ?_⟩
  · rw [ended] at reported
    exact reported
  · rw [ended] at reported
    exact reported

end Runs

section Samples

/-- An executable check that no deletion is confirmed. -/
def confirmsNothing (_ : BotStore) : IngressEvent → Bool
  | .processed _ _ effects =>
      effects.all fun effect => match effect with
        | .confirmAccountDeletion => false
        | _ => true
  | _ => true

theorem confirmsStanding_of_check {id : Uuid} {version : Int}
    (store : BotStore) (event : IngressEvent)
    (passed : confirmsNothing store event = true) :
    confirmsStanding id version store event := by
  cases event with
  | processed request accountId effects =>
      intro member
      have never := List.all_eq_true.mp passed _ member
      contradiction
  | _ => trivial

theorem permits_acknowledged {labels : List (Nat × SessionLabel BotCall)}
    {pool : Pool (Database BotRow IngressEvent)
      (SessionTask BotRow IngressEvent IngressFailure IngressAnswer)}
    {id : Uuid} {version : Int}
    (all : ∀ label ∈ labels, label.2 ≠ .loseAcknowledgement) :
    permits (poolStep (sessionAct (serveReply id version))) acknowledged pool
      labels := by
  induction labels generalizing pool with
  | nil => trivial
  | cons label labels ih =>
      exact ⟨all label List.mem_cons_self, fun next _ =>
        ih fun later member => all later (List.mem_cons_of_mem _ member)⟩

/-- The account discards the expense while its confirmation is processed. -/
theorem replies_resolve_once_discarded :
    ∃ pool, runLabels (poolStep (sessionAct (serveReply ⟨"account"⟩ 1)))
        (Pool.idle (Database.fresh promptStore)) (duelRun "ok" "no" 15 30 2) =
          some pool ∧
      pool.tasks 0 =
        some (.ended (.error (.process ⟨"version conflict"⟩))) ∧
      (pool.world.store (.expense ⟨"phở"⟩)).map ExpenseRow.state =
        some .rejected ∧
      (pool.world.log.Pairwise fun later earlier =>
        ¬ (ResolvesPrompt ⟨"account"⟩ later ∧
          ResolvesPrompt ⟨"account"⟩ earlier)) ∧
      publishedBy pool.world 0 = [] := by
  have runs : ∃ pool, runLabels (poolStep (sessionAct
          (serveReply ⟨"account"⟩ 1)))
        (Pool.idle (Database.fresh promptStore)) (duelRun "ok" "no" 15 30 2) =
          some pool ∧
      pool.tasks 0 =
        some (.ended (.error (.process ⟨"version conflict"⟩))) ∧
      (pool.world.store (.expense ⟨"phở"⟩)).map ExpenseRow.state =
        some .rejected :=
    ⟨_, rfl, rfl, rfl⟩
  obtain ⟨pool, ran, refused, rejected⟩ := runs
  have permitted : permits (poolStep (sessionAct (serveReply ⟨"account"⟩ 1)))
      (publishesOnly (confirmsStanding ⟨"account"⟩ 1))
      (Pool.idle (Database.fresh promptStore)) (duelRun "ok" "no" 15 30 2) :=
    permits_of_checks (publishesOnly_of_check confirmsStanding_of_check) rfl
  have resolved := replies_resolve_once rfl
    (reaches_of_runLabels permitted ran)
  have isAcknowledged : permits (poolStep (sessionAct
        (serveReply ⟨"account"⟩ 1))) acknowledged
      (Pool.idle (Database.fresh promptStore)) (duelRun "ok" "no" 15 30 2) :=
    permits_acknowledged (by simp [duelRun])
  exact ⟨pool, ran, refused, rejected, resolved.1,
    (resolved.2 (reaches_of_runLabels isAcknowledged ran) 0).1 _ refused⟩

/-- An account that has been asked whether it is to be deleted. -/
def deletionStore : BotStore
  | .conversationState ⟨"account"⟩ =>
      some ⟨some ⟨.accountDeletion, none, 900⟩, 1⟩
  | key => memberStore key

/-- The account is deleted after the deletion has been cancelled. -/
theorem cancelled_deletion_is_confirmed :
    ∃ pool later earlier, SessionReaches (serveReply ⟨"account"⟩ 1)
        (Pool.idle (Database.fresh deletionStore)) pool ∧
      pool.tasks 0 = some (.ended (.ok (.processed
        (replyRequest "first" "ok") (.accepted ⟨"first"⟩)))) ∧
      pool.tasks 1 = some (.ended (.ok (.processed
        (replyRequest "second" "no") (.accepted ⟨"second"⟩)))) ∧
      pool.world.log = [later, earlier] ∧
      ResolvesPrompt ⟨"account"⟩ later ∧ ResolvesPrompt ⟨"account"⟩ earlier ∧
      (earlier.after (.account ⟨"account"⟩)).map AccountRow.lifecycleState =
        some .active ∧
      earlier.after (.conversationState ⟨"account"⟩) = some ⟨none, 2⟩ ∧
      (later.after (.account ⟨"account"⟩)).map AccountRow.lifecycleState =
        some .deleting := by
  have runs : (runLabels (poolStep (sessionAct (serveReply ⟨"account"⟩ 1)))
      (Pool.idle (Database.fresh deletionStore))
      (duelRun "ok" "no" 15 27 23)).map (fun pool =>
        ((pool.tasks 0, pool.tasks 1), pool.world.log.map fun publication =>
          (publication.event,
            (publication.after (.account ⟨"account"⟩)).map
              AccountRow.lifecycleState,
            publication.after (.conversationState ⟨"account"⟩)))) =
      some ((some (.ended (.ok (.processed
          (replyRequest "first" "ok") (.accepted ⟨"first"⟩)))),
        some (.ended (.ok (.processed
          (replyRequest "second" "no") (.accepted ⟨"second"⟩))))),
        [(.processed (replyRequest "first" "ok") (some ⟨"account"⟩)
            [.confirmAccountDeletion], some .deleting, some ⟨none, 3⟩),
          (.processed (replyRequest "second" "no") (some ⟨"account"⟩)
            [.clearPendingAction 1], some .active, some ⟨none, 2⟩)]) := rfl
  obtain ⟨pool, ran, seen⟩ := Option.map_eq_some_iff.mp runs
  obtain ⟨⟨confirmed, cancelled⟩, logged⟩ := by
    simpa only [Prod.mk.injEq] using seen
  obtain ⟨later, rest, isLog, isLater, isRest⟩ := List.map_eq_cons_iff.mp logged
  obtain ⟨earlier, none, rfl, isEarlier, isNone⟩ :=
    List.map_eq_cons_iff.mp isRest
  obtain rfl := List.map_eq_nil_iff.mp isNone
  simp only [Prod.mk.injEq] at isLater isEarlier
  exact ⟨pool, later, earlier,
    reaches_of_runLabels (permits_anyStep _ (duelRun "ok" "no" 15 27 23)) ran,
    confirmed, cancelled, isLog,
    ⟨_, _, isLater.1, .confirmAccountDeletion, List.mem_cons_self, rfl⟩,
    ⟨_, _, isEarlier.1, .clearPendingAction 1, List.mem_cons_self, rfl⟩,
    isEarlier.2.1, isEarlier.2.2, isLater.2.1⟩

end Samples

end Ingress

end ZaloBot
