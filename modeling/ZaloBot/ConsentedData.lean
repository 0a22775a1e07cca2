import ZaloBot.AccountHistories
import ZaloBot.BotDecisions
import ZaloBot.ExpenseHistories

/-!
# Data before consent

While the consent of an account is pending, the bot decides on nothing but the
consent itself and the language.  So the database holds no data of such an
account, and every other account has its consent on record.
-/

namespace ZaloBot

open Sessions LabelledRuns TaskPool

/-- Rows that hold more of a user than the account and the messages to it. -/
def BotKey.isUserData : BotKey → Bool
  | .account _ | .outbound _ | .job _ | .usageCounter _ _ _ _ => false
  | _ => true

namespace Ingress

open Conversation

/-- No data of accounts without consent, and a record of every consent. -/
structure ConsentKept (store : BotStore) : Prop where
  data : ∀ id, IsUnconsented id store → ∀ key row,
    key.isUserData = true → BelongsTo id key row → store key ≠ some row
  recorded : ∀ id row, store (.account id) = some row →
    row.lifecycleState ≠ .pendingConsent →
      row.consentVersion = some consentVersion ∧
        row.consentedAt.isSome = true

/-- An effect that needs no consent. -/
def NeedsNoConsent (effect : IngressEffect) : Prop :=
  effect = .grantConsent consentVersion ∨ ∃ locale, effect = .setLocale locale

/-- Effects for an account without consent need none. -/
def asksOnlyConsent : EffectsCondition :=
  fun before _ accountId effects =>
    ∀ id, accountId = some id → IsUnconsented id before →
      ∀ effect ∈ effects, NeedsNoConsent effect

section Decisions

variable {texts : IngressTexts} {context : DecisionContext}
  {decision : DecisionOutput} {request : IngressRequest}

theorem handlePendingConsent_needsNoConsent {library : TextLibrary}
    {account : AccountContext} {text : String} {command : DomainCommand}
    (member : command ∈
      (handlePendingConsent library account text).commands) :
    command = .grantConsent consentVersion ∨
      ∃ locale, command = .setLocale locale := by
  rcases handlePendingConsent_commands member with
    ⟨version, rfl, confirms⟩ | isLocale
  · simp only [handlePendingConsent, confirms, List.mem_singleton] at member
    exact .inl member
  · exact .inr isLocale

theorem needsNoConsent_of_commands {commands : List DomainCommand}
    (quiet : ∀ command ∈ commands, command = .grantConsent consentVersion ∨
      ∃ locale, command = .setLocale locale)
    {effect : IngressEffect} (isEffect : IsEffectOf context commands effect) :
    NeedsNoConsent effect := by
  obtain ⟨command, member, inboundEventId, mapped⟩ := isEffect
  rcases quiet command member with rfl | ⟨locale, rfl⟩
  · cases mapped
    exact .inl rfl
  · cases mapped
    exact .inr ⟨locale, rfl⟩

/-- A context that was read while the account is without consent. -/
theorem pendingConsent_of_contextFrom {store : BotStore} {id : Uuid}
    (isFrom : ContextFrom (fun older => Progresses older store) request
      (some id) context) (unconsented : IsUnconsented id store) :
    (toConversationContext texts context).lifecycle = .pendingConsent := by
  obtain ⟨row, isState, isRow⟩ := isFrom.lifecycle id rfl
  have pending : row.lifecycleState = .pendingConsent := by
    rcases isRow with rfl | ⟨older, progresses, present⟩
    · rfl
    · exact unconsented.of_progresses progresses row present
  simp [toConversationContext, isState, pending, conversationLifecycle]

theorem botDecides_asksOnlyConsent : BotDecides asksOnlyConsent := by
  intro texts request
  constructor
  · intro store accountId context decision isFrom decided id isAccount
      unconsented effect member
    subst isAccount
    have pending : (toConversationContext texts context).lifecycle =
        .pendingConsent := pendingConsent_of_contextFrom isFrom unconsented
    refine needsNoConsent_of_commands ?_
      (effects_of_mapOutcome decided effect member)
    intro command isCommand
    unfold Conversation.decide at isCommand
    split at isCommand
    · simp [replyOnly] at isCommand
    · simp only [pending] at isCommand
      exact handlePendingConsent_needsNoConsent isCommand
  · intro store accountId context decision isFrom decided id isAccount
      unconsented effect member
    subst isAccount
    have pending : (toConversationContext texts context).lifecycle =
        .pendingConsent := pendingConsent_of_contextFrom isFrom unconsented
    obtain ⟨command, isCommand, _⟩ :=
      effects_of_mapOutcome decided effect member
    unfold decideImage at isCommand
    split at isCommand
    · simp [replyOnly] at isCommand
    · simp [pending, replyOnly] at isCommand

end Decisions

section Keeping

variable {origin before after : BotStore} {event : IngressEvent} {id : Uuid}

/-- No data of an account appears by an event without its consent. -/
theorem not_appears_of_needsNoConsent {request : IngressRequest}
    {effects : List IngressEffect} {key : BotKey}
    {old new : Option (BotRow key)}
    (quiet : ∀ effect ∈ effects, NeedsNoConsent effect)
    (isData : key.isUserData = true)
    (move : EventMoves (some id) effects request key old new)
    (fresh : ¬ AccountOwns id key old) : ¬ AccountOwns id key new := by
  have noEffect {effect : IngressEffect} (member : effect ∈ effects)
      (needed : ¬ NeedsNoConsent effect) : False :=
    needed (quiet effect member)
  rintro ⟨row, present, belongs⟩
  cases key with
  | account | outbound | job | usageCounter => contradiction
  | conversationState owner =>
      obtain ⟨effect, member, touches⟩ := move.2.touches
      rcases quiet effect member with rfl | ⟨locale, rfl⟩ <;>
        simp [Touches, IngressEffect.arms] at touches
  | expense expenseId =>
      cases move with
      | entered _ _ _ _ _ _ _ _ _ asked =>
          exact noEffect asked (by simp [NeedsNoConsent])
      | booked _ _ _ _ asked =>
          exact noEffect asked (by simp [NeedsNoConsent])
      | settled old | edited old | recategorized old =>
          cases present
          exact fresh ⟨old, rfl, belongs⟩
  | submission submissionId =>
      cases move with
      | accepted _ _ _ asked =>
          obtain ⟨_, _, _, asked⟩ := asked
          exact noEffect asked (by simp [NeedsNoConsent])
      | moved old =>
          cases present
          exact fresh ⟨old, rfl, belongs⟩
  | draft submissionId =>
      cases move with
      | edited old _ _ _ _ _ sameAccount =>
          cases present
          exact fresh ⟨old, rfl, sameAccount.symm.trans belongs⟩
      | recategorized old =>
          cases present
          exact fresh ⟨old, rfl, belongs⟩
  | deletionRequest owner => exact noEffect move.2 (by simp [NeedsNoConsent])
  | insightSnapshot key =>
      obtain ⟨_, asked⟩ := move.2
      exact noEffect asked (by simp [NeedsNoConsent])
  | summarySchedule owner frequency =>
      cases move.2 with
      | entered _ _ _ _ asked | changed _ _ _ _ asked | disabled _ _ asked
      | retimed _ _ _ asked => exact noEffect asked (by simp [NeedsNoConsent])
  | asset | activeImage => exact move.elim
  | ingressControl | inboundEvent | providerIdentity | receiptExpense
  | eventSubmission | extractionAttempts | corrections | object =>
      exact belongs.elim

/-- An account without consent has no data after an event. -/
theorem CommitsEvent.no_data (commits : CommitsEvent origin before event after)
    (asks : asksOnlyConsent.Of before event) (kept : ConsentKept before)
    (unconsented : IsUnconsented id before) {key : BotKey} {row : BotRow key}
    (isData : key.isUserData = true) (belongs : BelongsTo id key row) :
    after key ≠ some row := by
  intro present
  have isOther : key.isEventRow = false := by
    cases key <;> first | rfl | exact belongs.elim
  have fresh : ¬ AccountOwns id key (before key) := by
    rintro ⟨old, isOld, owned⟩
    exact kept.data id unconsented key old isData owned isOld
  obtain ⟨old, new, move, notYet, now⟩ := chain_establishes
    (commits.moved key isOther) fresh ⟨row, present, belongs⟩
  obtain ⟨request, accountId, effects, rfl⟩ := moves_processed move
  by_cases own : accountId = some id
  · subst own
    exact not_appears_of_needsNoConsent
      (asks request _ effects rfl id rfl unconsented) isData move notYet now
  · exact EventMoves.isolated own move (.inr now)

theorem ConsentKept.committed (kept : ConsentKept before)
    (commits : CommitsEvent origin before event after)
    (asks : asksOnlyConsent.Of before event) : ConsentKept after where
  data id unconsented key row isData belongs :=
    commits.no_data asks kept
      (unconsented.of_progresses commits.progresses) isData belongs
  recorded id row present granted := by
    by_cases unconsented : IsUnconsented id before
    · obtain ⟨request, effects, version, found, rfl, asked, isFound, isVersion,
        isTime⟩ := commits.consents unconsented fun still =>
          granted (still row present)
      rw [present] at isFound
      cases isFound
      rcases asks request _ effects rfl id rfl unconsented _ asked with
        same | ⟨locale, same⟩
      · cases same
        exact ⟨isVersion, isTime⟩
      · contradiction
    · simp only [IsUnconsented, not_forall] at unconsented
      obtain ⟨old, isOld, grantedBefore⟩ := unconsented
      obtain ⟨next, isNext, stays⟩ := commits.progresses.account id old isOld
      rw [present] at isNext
      cases isNext
      have same := stays.consent (.inl grantedBefore)
      have recorded := kept.recorded id old isOld grantedBefore
      exact ⟨same.1.trans recorded.1, same.2 ▸ recorded.2⟩

end Keeping

section Runs

variable {initial : BotStore}
  {pool : Pool (Database BotRow IngressEvent)
    (SessionTask BotRow IngressEvent IngressFailure IngressAnswer)}

theorem consentKept_initial : ConsentKept BotStore.initial where
  data _ _ key _ _ _ present := by
    cases key <;> simp_all [BotStore.initial, BelongsTo]
  recorded _ _ present := by
    simp [BotStore.initial] at present

/-- However messages are processed side by side, the database never holds data
of an account whose consent is pending: no expense, receipt, draft, pending
action, schedule, snapshot or deletion request, and no event that finds the
consent pending adds any.  Every other account has the consent version and the
time of its consent on record. -/
theorem no_data_before_consent (initially : ConsentKept initial)
    (run : SessionReaches serveBot (Pool.idle (Database.fresh initial))
      pool) :
    ConsentKept pool.world.store ∧
    ∀ publication ∈ pool.world.log,
      ConsentKept publication.before ∧ ConsentKept publication.after ∧
      ∀ id, IsUnconsented id publication.before → ∀ key row,
        key.isUserData = true → BelongsTo id key row →
          publication.after key ≠ some row := by
  have history := history_of_botReaches botDecides_asksOnlyConsent run
  have kept := history.preserves ConsentKept (by
    rintro before event after ⟨commits, asks⟩ kept
    exact kept.committed commits asks) initially
  refine ⟨kept.1, fun publication member => ⟨(kept.2 publication member).1,
    (kept.2 publication member).2, fun id unconsented key row isData belongs =>
      ?_⟩⟩
  have guaranteed := (history.of_mem member).2.2
  exact guaranteed.1.no_data guaranteed.2 (kept.2 publication member).1
    unconsented isData belongs

/-- Two senders consent side by side. -/
def consentsRun : List (Nat × SessionLabel BotCall) :=
  turnsRun (.text dailyProcess memberRequest shortTexts)
    (.text neighbourProcess neighbourRequest shortTexts) 31 0

theorem no_data_before_consent_ok :
    ∃ pool, runLabels (poolStep (sessionAct serveBot))
        (Pool.idle (Database.fresh BotStore.initial)) consentsRun =
          some pool ∧
      (pool.world.store (.account ⟨"account"⟩)).map
        AccountRow.lifecycleState = some .active ∧
      (pool.world.store (.account ⟨"account 2"⟩)).map
        AccountRow.lifecycleState = some .active ∧
      ConsentKept pool.world.store := by
  have runs : ∃ pool, runLabels (poolStep (sessionAct serveBot))
        (Pool.idle (Database.fresh BotStore.initial)) consentsRun =
          some pool ∧
      (pool.world.store (.account ⟨"account"⟩)).map
        AccountRow.lifecycleState = some .active ∧
      (pool.world.store (.account ⟨"account 2"⟩)).map
        AccountRow.lifecycleState = some .active :=
    ⟨_, rfl, rfl, rfl⟩
  obtain ⟨pool, ran, active, other⟩ := runs
  exact ⟨pool, ran, active, other,
    (no_data_before_consent consentKept_initial
      (reaches_of_runLabels (permits_anyStep _ consentsRun) ran)).1⟩

end Runs

end Ingress

end ZaloBot
