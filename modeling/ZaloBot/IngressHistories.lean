import ZaloBot.ExactlyOnceIngress

/-!
# Histories of ingress

What the calls of a run publish one after another, with the moves of every row.
A row is followed through a history by an order along which its moves lead, and
what an event may change is read off its own moves.  A condition on decisions
holds of every processed event of a history when it follows from a context that
was read before.
-/

namespace ZaloBot

open Sessions LabelledRuns TaskPool

/-- The moves of the rows by a publication. -/
def IngressEvent.moves : IngressEvent → Moves BotRow
  | .processed request accountId effects =>
      Ingress.EventMoves accountId effects request
  | _ => fun _ _ _ => False

namespace Ingress

/-- The rows other than those of events are moved. -/
def RowsMoved (moves : Moves BotRow) (before after : BotStore) : Prop :=
  ∀ key, key.isEventRow = false →
    Relation.ReflTransGen (moves key) (before key) (after key)

theorem RowsMoved.of_same {moves : Moves BotRow} {before after : BotStore}
    (same : ∀ key, key.isEventRow = false → after key = before key) :
    RowsMoved moves before after := by
  intro key isOther
  rw [same key isOther]

/-- A row that changes is led away from by a move. -/
theorem RowsMoved.exists_move {moves : Moves BotRow} {before after : BotStore}
    (moved : RowsMoved moves before after) {key : BotKey}
    (isOther : key.isEventRow = false) (changed : after key ≠ before key) :
    ∃ old new, moves key old new := by
  obtain ⟨old, new, move, _⟩ := chain_establishes (moved key isOther)
    (fun differs => differs rfl : ¬ before key ≠ before key) changed.symm
  exact ⟨old, new, move⟩

/-- What each call publishes in a history that began with `origin`, with the
moves of the rows and the effects that have been performed. -/
structure CommitsEvent (origin before : BotStore) (event : IngressEvent)
    (after : BotStore) : Prop where
  publishes : PublishesEvent before event after
  moved : RowsMoved event.moves before after
  performed : ∀ request id effects,
    event = .processed request (some id) effects → ∀ effect ∈ effects,
      Performs ((origin (.conversationState id)).isSome = true) id effect
        before after

/-- The moves of the rows by some publication. -/
def SomeMoves : Moves BotRow :=
  fun key old new => ∃ event : IngressEvent, event.moves key old new

/-- How the rows advance in a history. -/
structure Progresses (before after : BotStore) : Prop where
  events : EventsStay before after
  rows : RowsMoved SomeMoves before after

theorem Progresses.refl (store : BotStore) : Progresses store store :=
  ⟨.refl store, .of_same fun _ _ => rfl⟩

theorem Progresses.trans {first middle last : BotStore}
    (begun : Progresses first middle) (ended : Progresses middle last) :
    Progresses first last :=
  ⟨begun.events.trans ended.events, fun key isOther =>
    (begun.rows key isOther).trans (ended.rows key isOther)⟩

theorem CommitsEvent.progresses {origin before after : BotStore}
    {event : IngressEvent} (commits : CommitsEvent origin before event after) :
    Progresses before after :=
  ⟨commits.publishes.stays, fun key isOther =>
    .mono (fun _ _ move => ⟨event, move⟩) _ _ (commits.moved key isOther)⟩

/-- A condition on what an event of an account does to a store. -/
abbrev EffectsCondition :=
  BotStore → IngressRequest → Option Uuid → List IngressEffect → Prop

/-- The event meets the condition when it is processed. -/
def EffectsCondition.Of (condition : EffectsCondition) (before : BotStore)
    (event : IngressEvent) : Prop :=
  ∀ request accountId effects,
    event = .processed request accountId effects →
      condition before request accountId effects

theorem Progresses.conversation {before after : BotStore}
    (progresses : Progresses before after) (id : Uuid) :
    ConversationOrder (before (.conversationState id))
      (after (.conversationState id)) := by
  refine Relation.reflTransGen_le_of_le ?_ _ _
    (progresses.rows (.conversationState id) rfl)
  rintro old new ⟨event, move⟩
  cases event with
  | processed request accountId effects => exact move.2.order
  | duplicate | modeRejected | reviewFollowup | failureFollowup | switched =>
      exact move.elim

/-- The discipline of histories that begin with `origin`. -/
def historyRules (origin : BotStore)
    (permitted : BotStore → IngressEvent → Prop)
    (condition : EffectsCondition) (Error : Type) :
    Discipline BotRow IngressEvent Error where
  invariant := Progresses origin
  advances := Progresses
  permitted := permitted
  guarantee before event after :=
    CommitsEvent origin before event after ∧ condition.Of before event
  refusal _ _ := True
  advances_refl := .refl
  advances_trans := .trans
  keeps holds guaranteed :=
    ⟨holds.trans guaranteed.1.progresses, guaranteed.1.progresses⟩

/-- A conversation that was there at the beginning is always seen. -/
theorem sees_of_origin {origin store : BotStore}
    {permitted : BotStore → IngressEvent → Prop}
    {condition : EffectsCondition} {Error : Type} {id : Uuid}
    (present : (origin (.conversationState id)).isSome = true) :
    SeesConversation (historyRules origin permitted condition Error) id
      store := by
  intro older isEarlier
  obtain ⟨row, isRow⟩ := Option.isSome_iff_exists.mp present
  obtain ⟨next, isNext, _⟩ := isEarlier.invariant.conversation id row isRow
  simp [isNext]

section Verification

variable {condition : EffectsCondition} {origin : BotStore}
  {permitted : BotStore → IngressEvent → Prop}

theorem ContextFrom.mono {earlier wider : BotStore → Prop}
    {request : IngressRequest} {accountId : Option Uuid}
    {context : DecisionContext}
    (implies : ∀ store, earlier store → wider store)
    (isFrom : ContextFrom earlier request accountId context) :
    ContextFrom wider request accountId context where
  account := isFrom.account
  text := isFrom.text
  now := isFrom.now
  lifecycle id isAccount := by
    obtain ⟨row, isState, isRow⟩ := isFrom.lifecycle id isAccount
    exact ⟨row, isState, isRow.imp (fun same => same)
      fun ⟨older, isEarlier, present⟩ =>
        ⟨older, implies older isEarlier, present⟩⟩
  pending found isPending := by
    obtain ⟨id, isAccount, ⟨older, row, isEarlier, rest⟩, expense, draft⟩ :=
      isFrom.pending found isPending
    exact ⟨id, isAccount, ⟨older, row, implies older isEarlier, rest⟩,
      expense, draft⟩

/-- Every decision on a context that was read before the commit meets the
condition. -/
def Decides (condition : EffectsCondition) (request : IngressRequest)
    (decide : DecisionContext → Except IngressEffectError DecisionOutput) :
    Prop :=
  ∀ store accountId context decision,
    ContextFrom (fun older => Progresses older store) request accountId
      context →
    decide context = .ok decision →
    condition store request accountId decision.effects

theorem accepts_of_decides {Error : Type} {request : IngressRequest}
    {decide : DecisionContext → Except IngressEffectError DecisionOutput}
    (decides : Decides condition request decide) :
    AcceptsCall (historyRules origin permitted condition Error) request
      decide where
  refuses _ _ := trivial
  stays := Progresses.events
  duplicate _ seen :=
    ⟨⟨⟨rfl, seen⟩, .of_same fun _ _ => rfl, by simp⟩,
      by simp [EffectsCondition.Of]⟩
  rejected _ rejects :=
    ⟨⟨rejects, .of_same fun _ => rejects.same_of_other, by simp⟩,
      by simp [EffectsCondition.Of]⟩
  processed _ isFrom decided processes moved performs := by
    refine ⟨⟨processes, moved, fun _ id _ same effect member => ?_⟩,
      fun _ _ _ same => ?_⟩
    · cases same
      exact (performs id rfl effect member).mono sees_of_origin
    · cases same
      exact decides _ _ _ _ (isFrom.mono fun _ older => older.advances) decided

theorem acceptsSwitch_history {Error : Type} :
    AcceptsSwitch (historyRules origin permitted condition Error) where
  refuses _ _ := trivial
  switched _ same := by
    refine ⟨⟨same, .of_same fun key isOther => same key ?_, by simp⟩,
      by simp [EffectsCondition.Of]⟩
    rintro rfl
    simp [BotKey.isEventRow] at isOther

/-- No condition on decisions. -/
def anyEffects : EffectsCondition :=
  fun _ _ _ _ => True

/-- No condition on publications. -/
def anyEvent : BotStore → IngressEvent → Prop :=
  fun _ _ => True

theorem accepts_history (call : IngressCall) :
    Accepts (historyRules origin anyEvent anyEffects IngressFailure) call := by
  cases call with
  | process environment request observation decide =>
      exact accepts_of_decides fun _ _ _ _ _ _ => trivial
  | switch mode => exact acceptsSwitch_history

/-- Every run of sessions that keep the rules is a history. -/
theorem history_of_verified {Request : Type}
    {program : Request →
      Session BotRow IngressEvent IngressFailure IngressAnswer}
    (verified : ∀ request store, Progresses origin store →
      (historyRules origin permitted condition IngressFailure).wp
        (program request) Overlay.none store fun _ _ _ => True)
    {allowed : Pool (Database BotRow IngressEvent)
      (SessionTask BotRow IngressEvent IngressFailure IngressAnswer) →
      Nat × SessionLabel Request → Prop}
    (permits : ∀ pool label, allowed pool label →
      publishesOnly permitted pool label)
    {pool : Pool (Database BotRow IngressEvent)
      (SessionTask BotRow IngressEvent IngressFailure IngressAnswer)}
    (run : Reaches (poolStep (sessionAct program)) allowed
      (Pool.idle (Database.fresh origin)) pool) :
    (historyRules origin permitted condition IngressFailure).Logged origin
      pool.world.log pool.world.store := by
  have verifies : (historyRules origin permitted condition
      IngressFailure).VerifiesAll (fun _ _ => True) program
        fun _ _ => True := .of_wp verified
  have holds := Discipline.sound_of_reaches verifies (.refl origin)
    (fun pool label isAllowed =>
      ⟨permits pool label isAllowed, fun _ _ _ _ => trivial⟩) run
  exact holds.shared.logged

/-- Every run is a history. -/
theorem history_of_reaches {initial : BotStore}
    {pool : Pool (Database BotRow IngressEvent)
      (SessionTask BotRow IngressEvent IngressFailure IngressAnswer)}
    (run : SessionReaches serve (Pool.idle (Database.fresh initial)) pool) :
    (historyRules initial anyEvent anyEffects IngressFailure).Logged initial
      pool.world.log pool.world.store :=
  history_of_verified
    (fun call _ holds => wp_serve (accepts_history call) holds)
    (fun _ _ _ _ _ _ _ _ _ => trivial) run

end Verification

section Samples

/-- The rows of a member whose export is queued. -/
def memberStore : BotStore
  | .ingressControl => some ⟨.webhook, 1⟩
  | .providerIdentity "zalo" "sender" => some ⟨⟨"identity"⟩, ⟨"account"⟩⟩
  | .account ⟨"account"⟩ =>
      some { newAccount with
        lifecycleState := .active
        consentVersion := some Conversation.consentVersion
        consentedAt := some 0 }
  | .job "export" =>
      some (WorkStore.queuedRow 0 1
        { id := ⟨"job"⟩
          jobType := "account.export"
          payload := ⟨some 1, []⟩
          dedupeKey := "export"
          serializationKey := some (accountSerializationKey ⟨"account"⟩)
          priority := 0
          runAt := 0
          maxAttempts := 10 })
  | _ => none

end Samples

end Ingress

end ZaloBot
