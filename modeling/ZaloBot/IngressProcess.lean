import ZaloBot.IngressEffects

/-!
# Processing an ingress event

`IngressStore::process` as one session: the mode is read under a shared lock,
the event is inserted or promoted, the account is resolved, the decision is
made on the context that is read then, and its effects and its reply are
committed with the event.  Beside it, the sessions that run with it: the
follow-ups of receipts and the switch of the ingress mode.
-/

namespace ZaloBot

open Sessions

structure IngressError where
  message : String
deriving DecidableEq, Repr

/-- What is committed. -/
inductive IngressEvent where
  | duplicate (request : IngressRequest)
  | modeRejected (request : IngressRequest)
  | processed (request : IngressRequest) (accountId : Option Uuid)
      (effects : List IngressEffect)
  | reviewFollowup (accountId submissionId : Uuid) (now : Timestamp)
  | failureFollowup
  | switched
deriving DecidableEq, Repr

namespace Ingress

/-- What the environment decides while an event is processed. -/
structure ProcessEnvironment where
  policy : IngressPolicy
  context : ContextEnvironment
  effects : EffectEnvironment
  eventId : Uuid
  newAccountId : Uuid
  identityId : Uuid
  period : String
  outboundId : Uuid
  deliverJobId : Uuid

abbrev Process (Value : Type) :=
  Session BotRow IngressEvent IngressError Value

/-- The result of a statement as `process` reports its error. -/
def reported {Value : Type} (statement : Statement IngressEvent Value) :
    Process Value :=
  statement.mapError fun error => ⟨error.message⟩

variable (environment : ProcessEnvironment) (request : IngressRequest)
variable (observation : IngressObservation)

section Observing

/-- The row of an observed event. -/
def observedRow (state : ProcessingState) : InboundEventRow where
  id := environment.eventId
  kind := observation.eventKind
  processingState := state
  ingressSource := request.source
  accountId := none
  processedAt := none
  mediaUrl := observation.mediaUrl
  providerChatId := request.providerChatId

/-- `INSERT … ON CONFLICT DO UPDATE … WHERE processing_state = 'rejected'`: the
id of the row that was inserted or promoted. -/
def insertOrPromote : Process (Option Uuid) :=
  .lock .exclusive
    (.inboundEvent request.providerScope request.providerEventId)
    (fun _ => true)
    (fun existing =>
      match existing with
      | none =>
          .write (.inboundEvent request.providerScope request.providerEventId)
            (some (observedRow environment request observation .accepted))
            (.done (some environment.eventId))
      | some row =>
          if row.processingState = .rejected then
            .write
              (.inboundEvent request.providerScope request.providerEventId)
              (some { observedRow environment request observation .accepted
                with id := row.id })
              (.done (some row.id))
          else
            .done none)
    (.fail ⟨"failed to insert or promote inbound event"⟩)

/-- `INSERT … ON CONFLICT DO NOTHING` of a rejected event. -/
def insertRejected : Process (Option Uuid) := do
  let inserted ← .insertRow ⟨"failed to insert inbound event"⟩
    (BotKey.inboundEvent request.providerScope request.providerEventId)
    (observedRow environment request observation .rejected)
  pure (if inserted then some environment.eventId else none)

/-- `insert_observed_event`. -/
def insertObservedEvent (state : ProcessingState) : Process IngressOutcome := do
  let inserted ←
    if state = .accepted then
      insertOrPromote environment request observation
    else
      insertRejected environment request observation
  match inserted with
  | some id => pure (.accepted id)
  | none => do
      let existing ← .query ⟨"failed to load duplicate inbound event"⟩
        fun view =>
          (view (.inboundEvent request.providerScope
            request.providerEventId)).map InboundEventRow.id
      match existing with
      | none => .fail ⟨"failed to load duplicate inbound event"⟩
      | some id => pure (.duplicate id)

/-- A new account. -/
def newAccount : AccountRow :=
  ⟨.pendingConsent, none, none, "vi-VN", "Asia/Ho_Chi_Minh", 7, "VND"⟩

/-- `resolve_or_create_account`. -/
def resolveOrCreateAccount : Statement IngressEvent Uuid := do
  let existing ← .query .invalidTransition fun view =>
    (view (.providerIdentity request.providerScope
      request.providerSenderId)).map ProviderIdentityRow.accountId
  match existing with
  | some accountId => pure accountId
  | none => do
      let created ← .insertRow .invalidTransition
        (BotKey.account environment.newAccountId) newAccount
      expectAffected .invalidTransition created
      let linked ← .insertRow .invalidTransition
        (BotKey.providerIdentity request.providerScope
          request.providerSenderId)
        ⟨environment.identityId, environment.newAccountId⟩
      expectAffected .invalidTransition linked
      pure environment.newAccountId

end Observing

/-- What the environment decides about the reply. -/
def replyEnvironment : OutboundEnvironment where
  now := environment.effects.now
  outboundEnabled := environment.policy.outboundEnabled
  zaloMonthlyMessages := environment.policy.zaloMonthlyMessages
  period := environment.period
  outboundId := environment.outboundId
  deliverJobId := environment.deliverJobId

/-- The idempotency key of a reply. -/
def replyKey : String :=
  "reply:" ++ request.providerScope ++ ":" ++ request.providerEventId

/-- `enqueue_reply`. -/
def enqueueReply (accountId : Option Uuid) (body : String) :
    Statement IngressEvent Unit :=
  invalidOnError (Followups.enqueueOutboundInTransaction
    (replyEnvironment environment) (.dependency "outbound enqueue failed")
    accountId request.providerScope request.providerChatId body
    (replyKey request))

/-- The account of the sender, if the sender is allowed. -/
def senderAccount : Process (Option Uuid) :=
  if request.senderAllowed then do
    let accountId ← reported (resolveOrCreateAccount environment request)
    pure (some accountId)
  else
    pure none

/-- The context of the decision. -/
def decisionContext (accountId : Option Uuid) (inboundEventId : Uuid) :
    Process DecisionContext :=
  match accountId with
  | some accountId =>
      reported (loadDecisionContext environment.context environment.policy
        accountId inboundEventId request)
  | none =>
      pure (strangerContext environment.context environment.policy
        inboundEventId request)

/-- The effects of the decision; the result is the reply that an effect
gives. -/
def applyDecision (accountId : Option Uuid) (inboundEventId : Uuid)
    (effects : List IngressEffect) : Process (Option String) :=
  match accountId with
  | some accountId =>
      reported (applyEffects (.processed request (some accountId) effects)
        environment.effects environment.context environment.policy accountId
        inboundEventId request effects)
  | none =>
      if effects.isEmpty then
        pure none
      else
        .fail ⟨"domain effects require an allowed sender account"⟩

/-- The reply of an event is queued. -/
def reply (accountId : Option Uuid) (body : Option String) : Process Unit :=
  match body with
  | none => pure ()
  | some body => reported (enqueueReply environment request accountId body)

/-- `process` for an event that was inserted or promoted. -/
def processAccepted
    (decide : DecisionContext → Except IngressEffectError DecisionOutput)
    (inboundEventId : Uuid) : Process IngressOutcome := do
  let accountId ← senderAccount environment request
  let context ← decisionContext environment request accountId inboundEventId
  match decide context with
  | .error error => .fail ⟨error.message⟩
  | .ok decision => do
      let override ← applyDecision environment request accountId
        inboundEventId decision.effects
      reply environment request accountId (override.or decision.reply)
      let _ ← .updateRow ⟨"failed to finalize inbound event"⟩
        (BotKey.inboundEvent request.providerScope request.providerEventId)
        (·.id = inboundEventId) fun row =>
          { row with
            accountId := accountId
            processedAt := some environment.effects.now }
      .commitTransaction ⟨"failed to commit ingress transaction"⟩
        (.processed request accountId decision.effects)
      pure (.accepted inboundEventId)

/-- `SELECT mode FROM ingress_control … FOR SHARE`. -/
def lockMode : Process IngressSource :=
  .lock .shared .ingressControl (fun row => row.isSome)
    (fun row =>
      match row with
      | none => .fail ⟨"failed to read ingress mode"⟩
      | some row => .done row.mode)
    (.fail ⟨"failed to read ingress mode"⟩)

/-- `process` for an event that has its row. -/
def commitDuplicate (inboundEventId : Uuid) : Process IngressOutcome := do
  .commitTransaction ⟨"failed to commit duplicate"⟩ (.duplicate request)
  pure (.duplicate inboundEventId)

/-- `IngressStore::process`. -/
def process
    (decide : DecisionContext → Except IngressEffectError DecisionOutput) :
    Process IngressOutcome := do
  let mode ← lockMode
  if mode ≠ request.source then
    let outcome ← insertObservedEvent environment request observation
      .rejected
    match outcome with
    | .duplicate inboundEventId => commitDuplicate request inboundEventId
    | .accepted inboundEventId | .modeRejected inboundEventId => do
        .commitTransaction ⟨"failed to commit mode rejection"⟩
          (.modeRejected request)
        pure (.modeRejected inboundEventId)
  else
    let outcome ← insertObservedEvent environment request observation
      .accepted
    match outcome with
    | .accepted inboundEventId =>
        processAccepted environment request decide inboundEventId
    | .duplicate inboundEventId => commitDuplicate request inboundEventId
    | .modeRejected _ =>
        .fail ⟨"unexpected mode rejection on accepted path"⟩

/-- `process_text_command`. -/
def processTextCommand (texts : IngressTexts) : Process IngressOutcome :=
  process environment request ⟨.textCommandEnvelope, none⟩
    (decideTextAndMap texts)

/-- `process_image`. -/
def processImage (texts : IngressTexts) (mediaUrl : String) :
    Process IngressOutcome :=
  if environment.effects.receipts then
    process environment request ⟨.imageReceived, some mediaUrl⟩
      (decideImageAndMap texts)
  else
    .fail ⟨"receipt lifecycle is required for images"⟩

section Samples

/-- An environment in which nothing is due. -/
def stillEnvironment : EffectEnvironment where
  now := 0
  receipts := false
  isTimezone := (· == "UTC")
  nextDelivery := fun _ _ _ _ => none
  toRfc3339 := fun _ => ""
  latestExpense := none
  scheduleId := ⟨"schedule"⟩
  deletionRequestId := ⟨"request"⟩
  deleteJobId := ⟨"delete"⟩
  exportId := ⟨"export"⟩
  exportJobId := ⟨"export job"⟩
  queuedJobs := []
  insight := fun kind =>
    { key := ⟨⟨"account"⟩, kind, 0, "UTC"⟩
      periodEnd := none
      aggregate := ⟨0, "VND", 0, [], []⟩
      digest := fun _ => ""
      snapshotId := ⟨"snapshot"⟩
      narrateJobId := ⟨"narrate"⟩
      now := 0
      observedAt := 0
      period := ""
      insightsLlmEnabled := false
      monthlyInsightNarratives := 0
      commits := true }
  quotaText := fun _ => ""
  summaryText := fun _ _ _ => ""

def stillContext : ContextEnvironment where
  expenseIds := []
  localDate := fun _ => none
  interactivePeriod := fun _ _ _ => none
  dailyPeriodKey := fun _ _ => ""
  categoryDisplay := fun _ key => key
  nextExpenseId := ⟨"next"⟩
  nextSubmissionId := ⟨"submission"⟩
  nextIngestJobId := ⟨"job"⟩

def stillProcess : ProcessEnvironment where
  policy := .default
  context := stillContext
  effects := stillEnvironment
  eventId := ⟨"inbound"⟩
  newAccountId := ⟨"account"⟩
  identityId := ⟨"identity"⟩
  period := "2026-05"
  outboundId := ⟨"outbound"⟩
  deliverJobId := ⟨"deliver"⟩

end Samples

end Ingress

end ZaloBot
