import ZaloBot.ConversationAuthority
import ZaloBot.FallibleSteps
import ZaloBot.IngressHistories
import ZaloBot.RecentLedger

/-!
# Decisions of the bot

The calls that the bot makes for messages: texts are decided by `decide`, images
by `decide_image`, on the context that the transaction has loaded.  Every effect
of such a decision is that of a command, so a condition on commands is one on
the events of every history.
-/

namespace ZaloBot

open Sessions LabelledRuns TaskPool

namespace Ingress

open Conversation

/-- A message for the bot, or a switch of the ingress mode. -/
inductive BotCall where
  | text (environment : ProcessEnvironment) (request : IngressRequest)
      (texts : IngressTexts)
  | image (environment : ProcessEnvironment) (request : IngressRequest)
      (texts : IngressTexts) (mediaUrl : String)
  | switch (mode : String)

/-- A call of the bot as a session. -/
def serveBot : BotCall →
    Session BotRow IngressEvent IngressFailure IngressAnswer
  | .text environment request texts => do
      let outcome ← (processTextCommand environment request texts).mapError
        .process
      pure (.processed request outcome)
  | .image environment request texts mediaUrl => do
      let outcome ← (processImage environment request texts mediaUrl).mapError
        .process
      pure (.processed request outcome)
  | .switch mode => serve (.switch mode)

section Commands

variable {texts : IngressTexts} {context : DecisionContext}
  {decision : DecisionOutput}

/-- An effect is that of a command. -/
def IsEffectOf (context : DecisionContext) (commands : List DomainCommand)
    (effect : IngressEffect) : Prop :=
  ∃ command ∈ commands, ∃ inboundEventId,
    mapCommand (context.pendingAction.map PendingAction.version)
      inboundEventId command = .ok effect

/-- The effects of an outcome are those of its commands, for one event. -/
theorem mapped_of_mapOutcome {outcome : ConversationOutcome}
    (mapped : mapOutcome texts outcome context = .ok decision) :
    ∃ inboundEventId, outcome.commands.mapM (mapCommand
      (context.pendingAction.map PendingAction.version) inboundEventId) =
        .ok decision.effects := by
  unfold mapOutcome at mapped
  split at mapped
  · contradiction
  rename_i inboundEventId _
  refine ⟨inboundEventId, ?_⟩
  cases effects : outcome.commands.mapM (mapCommand
      (context.pendingAction.map PendingAction.version) inboundEventId) with
  | error error => simp [effects, bind, Except.bind] at mapped
  | ok values =>
      simp only [effects, bind, Except.bind, pure, Except.pure] at mapped
      split at mapped <;> simp at mapped <;> rw [← mapped]

theorem effects_of_mapOutcome {outcome : ConversationOutcome}
    (mapped : mapOutcome texts outcome context = .ok decision) :
    ∀ effect ∈ decision.effects,
      IsEffectOf context outcome.commands effect := by
  obtain ⟨inboundEventId, mapped⟩ := mapped_of_mapOutcome mapped
  intro effect member
  obtain ⟨command, isCommand, ran⟩ :=
    FallibleSteps.returnsRule_except.exists_of_mem_targets mapped member
  exact ⟨command, isCommand, inboundEventId, ran⟩

end Commands

section Histories

variable {condition : EffectsCondition} {initial : BotStore}
  {pool : Pool (Database BotRow IngressEvent)
    (SessionTask BotRow IngressEvent IngressFailure IngressAnswer)}

/-- The decisions of the bot meet the condition. -/
def BotDecides (condition : EffectsCondition) : Prop :=
  ∀ texts request, Decides condition request (decideTextAndMap texts) ∧
    Decides condition request (decideImageAndMap texts)

theorem wp_serveBot (decides : BotDecides condition) (call : BotCall)
    {store : BotStore} (holds : Progresses initial store) :
    (historyRules initial anyEvent condition IngressFailure).wp (serveBot call)
      Overlay.none store fun _ _ _ => True := by
  cases call with
  | text environment request texts =>
      have accepts : Accepts (historyRules initial anyEvent condition IngressFailure)
          (.process environment request ⟨.textCommandEnvelope, none⟩
            (decideTextAndMap texts)) :=
        accepts_of_decides (decides texts request).1
      exact wp_serve accepts holds
  | image environment request texts mediaUrl =>
      have accepts : Accepts (historyRules initial anyEvent condition IngressFailure)
          (.process environment request ⟨.imageReceived, some mediaUrl⟩
            (decideImageAndMap texts)) :=
        accepts_of_decides (decides texts request).2
      cases receipts : environment.effects.receipts with
      | true =>
          have same : serveBot (.image environment request texts mediaUrl) =
              serve (.process environment request
                ⟨.imageReceived, some mediaUrl⟩ (decideImageAndMap texts)) := by
            simp [serveBot, processImage, receipts, serve]
          rw [same]
          exact wp_serve accepts holds
      | false =>
          have same : serveBot (.image environment request texts mediaUrl) =
              .fail (.process ⟨"receipt lifecycle is required for images"⟩) := by
            simp only [serveBot, processImage, receipts]
            rfl
          rw [same]
          exact trivial
  | switch mode =>
      have accepts : Accepts (historyRules initial anyEvent condition IngressFailure)
          (.switch mode) := acceptsSwitch_history
      exact wp_serve accepts holds

/-- Every run of the bot is a history of the condition. -/
theorem history_of_botReaches (decides : BotDecides condition)
    (run : SessionReaches serveBot (Pool.idle (Database.fresh initial))
      pool) :
    (historyRules initial anyEvent condition IngressFailure).Logged initial
      pool.world.log pool.world.store :=
  history_of_verified (fun call _ holds => wp_serveBot decides call holds)
    (fun _ _ _ _ _ _ _ _ _ => trivial) run

end Histories

section Samples

/-- Texts with replies of one character. -/
def shortTexts : IngressTexts :=
  { plainTexts with render := fun _ _ => "." }

end Samples

end Ingress

end ZaloBot
