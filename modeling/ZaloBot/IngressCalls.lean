import ZaloBot.IngressFootprints
import ZaloBot.SignedUpdates

/-!
# Calls on the ingress store

Calls of `process`, for any events and with any decisions, and switches of the
ingress mode, as sessions of one type.  Every call commits at most once, and
its answer reports what it committed.
-/

namespace ZaloBot

open Sessions LabelledRuns TaskPool

namespace Ingress

section Calls

/-- The mode of `ingress_control` that an argument of the switch names. -/
def dbMode (mode : String) : Option IngressSource :=
  if mode = "webhook" then some .webhook
  else if mode = "poll" then some .polling
  else none

/-- `UPDATE ingress_control … RETURNING mode_generation`, a transaction of its
own. -/
def switchMode (mode : IngressSource) :
    Session BotRow IngressEvent AppError (Option Int) :=
  .lock .exclusive .ingressControl (fun row => row.isSome)
    (fun row =>
      match row with
      | none => .done none
      | some row =>
          .write .ingressControl (some ⟨mode, row.modeGeneration + 1⟩)
            (.commit .switched (.done (some (row.modeGeneration + 1)))
              (.fail ⟨.dependency, "ingress mode switch failed"⟩)))
    (.fail ⟨.dependency, "ingress mode switch failed"⟩)

/-- `run_ingress_switch`. -/
def runIngressSwitch (mode : String) :
    Session BotRow IngressEvent AppError Int :=
  match dbMode mode with
  | none => .fail ⟨.validation, "unknown ingress mode: " ++ mode⟩
  | some mode => do
      let generation ← switchMode mode
      match generation with
      | none => .fail ⟨.dependency, "ingress control row missing"⟩
      | some generation => pure generation

/-- A call of `process` or of `run_ingress_switch`. -/
inductive IngressCall where
  | process (environment : ProcessEnvironment) (request : IngressRequest)
      (observation : IngressObservation)
      (decide : DecisionContext → Except IngressEffectError DecisionOutput)
  | switch (mode : String)

/-- What a call returns; the answer of `process` comes with its request. -/
inductive IngressAnswer where
  | processed (request : IngressRequest) (outcome : IngressOutcome)
  | switched (modeGeneration : Int)

inductive IngressFailure where
  | process (error : IngressError)
  | switch (error : AppError)

/-- A call as a session. -/
def serve : IngressCall →
    Session BotRow IngressEvent IngressFailure IngressAnswer
  | .process environment request observation decide => do
      let outcome ← (process environment request observation decide).mapError
        .process
      pure (.processed request outcome)
  | .switch mode => do
      let generation ← (runIngressSwitch mode).mapError .switch
      pure (.switched generation)

end Calls

section Outcomes

variable {environment : ProcessEnvironment} {request : IngressRequest}
  {observation : IngressObservation} {inboundEventId : Uuid}
  {decide : DecisionContext → Except IngressEffectError DecisionOutput}

/-- The commit that an outcome of `process` reports. -/
def ReportsOutcome (request : IngressRequest) (event : IngressEvent) :
    IngressOutcome → Prop
  | .accepted _ =>
      ∃ accountId effects, event = .processed request accountId effects
  | .duplicate _ => event = .duplicate request
  | .modeRejected _ => event = .modeRejected request

/-- The commit that an answer reports. -/
def ReportsAnswer (event : IngressEvent) : IngressAnswer → Prop
  | .processed request outcome => ReportsOutcome request event outcome
  | .switched _ => event = .switched

/-- The outcome of an insertion: the row that was inserted or promoted, or the
one that is there. -/
def observed (request : IngressRequest) :
    Option Uuid → Process IngressOutcome
  | some id => pure (.accepted id)
  | none => do
      let existing ← .query ⟨"failed to load duplicate inbound event"⟩
        fun view =>
          (view (.inboundEvent request.providerScope
            request.providerEventId)).map InboundEventRow.id
      match existing with
      | none => .fail ⟨"failed to load duplicate inbound event"⟩
      | some id => pure (.duplicate id)

theorem insertObservedEvent_accepted :
    insertObservedEvent environment request observation .accepted =
      insertOrPromote environment request observation >>= observed request :=
  rfl

theorem insertObservedEvent_rejected :
    insertObservedEvent environment request observation .rejected =
      insertRejected environment request observation >>= observed request :=
  rfl

theorem within_lockMode {allowed : BotKey → Prop} :
    EffectWithin allowed lockMode := by
  refine ⟨fun row => ?_, trivial⟩
  cases row <;> trivial

theorem within_insertObservedEvent {allowed : BotKey → Prop}
    {state : ProcessingState}
    (free : allowed (.inboundEvent request.providerScope
      request.providerEventId)) :
    EffectWithin allowed
      (insertObservedEvent environment request observation state) := by
  have observes (inserted : Option Uuid) :
      EffectWithin allowed (observed request inserted) := by
    cases inserted with
    | some id => trivial
    | none =>
        refine .bind (Session.writesWithin_query trivial) fun existing => ?_
        cases existing <;> trivial
  cases state with
  | accepted =>
      rw [insertObservedEvent_accepted]
      refine .bind ⟨fun existing => ?_, trivial⟩ observes
      cases existing with
      | none => exact ⟨free, trivial⟩
      | some row =>
          dsimp only
          split
          · exact ⟨free, trivial⟩
          · trivial
  | rejected =>
      rw [insertObservedEvent_rejected]
      exact .bind (.bind (Session.writesWithin_insertRow trivial free)
        fun _ => Session.writesWithin_pure) observes

theorem within_senderAccount {allowed : BotKey → Prop}
    (account : allowed (.account environment.newAccountId))
    (identity : allowed (.providerIdentity request.providerScope
      request.providerSenderId)) :
    EffectWithin allowed (senderAccount environment request) := by
  unfold senderAccount
  split
  case isFalse => trivial
  have resolves : EffectWithin allowed
      (resolveOrCreateAccount environment request) := by
    refine .bind (Session.writesWithin_query trivial) fun existing => ?_
    cases existing with
    | some accountId => trivial
    | none =>
        refine .bind (Session.writesWithin_insertRow trivial account)
          fun _ => ?_
        refine .bind within_expectAffected fun _ => ?_
        refine .bind (Session.writesWithin_insertRow trivial identity)
          fun _ => ?_
        exact .bind within_expectAffected fun _ => trivial
  exact .bind (Session.writesWithin_mapError (fun _ _ => trivial) resolves)
    fun _ => Session.writesWithin_pure

theorem within_decisionContext {allowed : BotKey → Prop}
    {accountId : Option Uuid} :
    EffectWithin allowed
      (decisionContext environment request accountId inboundEventId) := by
  cases accountId with
  | none => trivial
  | some accountId =>
      exact Session.writesWithin_mapError (fun _ _ => trivial)
        within_loadDecisionContext

/-- The effects of a decision leave the rows of events alone. -/
theorem within_applyDecision {accountId : Option Uuid}
    {effects : List IngressEffect} :
    EffectWithin (fun key => key.isEventRow = false)
      (applyDecision environment request accountId inboundEventId
        effects) := by
  cases accountId with
  | none =>
      unfold applyDecision
      dsimp only
      split <;> trivial
  | some accountId =>
      refine Session.writesWithin_mapError (fun _ _ => trivial)
        ((applyEffects_within effects).mono ?_ fun _ _ => trivial)
      rintro key ⟨effect, _, writes⟩
      exact IngressEffect.not_isEventRow_of_writes writes

theorem within_reply {accountId : Option Uuid} {body : Option String} :
    EffectWithin (fun key => key.isEventRow = false)
      (reply environment request accountId body) := by
  cases body with
  | none => trivial
  | some body =>
      exact Session.writesWithin_mapError (fun _ _ => trivial)
        (within_enqueueReply (fun _ _ _ _ => rfl) (fun _ => rfl)
          fun _ => rfl)

theorem commitsOnce_commitDuplicate :
    (commitDuplicate request inboundEventId).CommitsOnce
      (ReportsOutcome request) :=
  ⟨⟨_, rfl, rfl⟩, _, rfl⟩

theorem commitsOnce_processAccepted :
    (processAccepted environment request decide inboundEventId).CommitsOnce
      (ReportsOutcome request) := by
  refine .bind (within_senderAccount trivial trivial :
    EffectWithin (fun _ => True) _) fun accountId => ?_
  refine .bind (within_decisionContext : EffectWithin (fun _ => True) _)
    fun context => ?_
  cases decide context with
  | error error => trivial
  | ok decision =>
      refine .bind within_applyDecision fun override => ?_
      refine .bind within_reply fun _ => ?_
      refine .bind (Session.writesWithin_updateRow trivial trivial :
        EffectWithin (fun _ => True) _) fun _ => ?_
      exact ⟨⟨_, rfl, _, _, rfl⟩, _, rfl⟩

theorem commitsOnce_process :
    (process environment request observation decide).CommitsOnce
      (ReportsOutcome request) := by
  refine .bind (within_lockMode : EffectWithin (fun _ => True) _)
    fun mode => ?_
  split
  · refine .bind (within_insertObservedEvent trivial :
      EffectWithin (fun _ => True) _) fun outcome => ?_
    cases outcome with
    | duplicate inboundEventId => exact commitsOnce_commitDuplicate
    | accepted inboundEventId => exact ⟨⟨_, rfl, rfl⟩, _, rfl⟩
    | modeRejected inboundEventId => exact ⟨⟨_, rfl, rfl⟩, _, rfl⟩
  · refine .bind (within_insertObservedEvent trivial :
      EffectWithin (fun _ => True) _) fun outcome => ?_
    cases outcome with
    | duplicate inboundEventId => exact commitsOnce_commitDuplicate
    | accepted inboundEventId => exact commitsOnce_processAccepted
    | modeRejected inboundEventId => trivial

theorem commitsOnce_runIngressSwitch {mode : String} :
    (runIngressSwitch mode).CommitsOnce fun event _ => event = .switched := by
  unfold runIngressSwitch
  split
  · trivial
  · refine ⟨fun row => ?_, trivial⟩
    cases row with
    | none => trivial
    | some row => exact ⟨⟨_, rfl, rfl⟩, _, rfl⟩

/-- Every call commits at most once, and reports what it committed. -/
theorem commitsOnce_serve (call : IngressCall) :
    (serve call).CommitsOnce ReportsAnswer := by
  cases call with
  | process environment request observation decide =>
      exact Session.CommitsOnce.map commitsOnce_process.mapError
  | switch mode =>
      exact Session.CommitsOnce.map commitsOnce_runIngressSwitch.mapError

end Outcomes

end Ingress

end ZaloBot
