import ZaloBot.CustodyRequests
import ZaloBot.IngressProcess

/-!
# Footprints of the effects of an event

Every effect writes rows of few kinds, none of which says which events have
been seen, which account a sender has, or which source is listened to.  The
effects of an event run in its transaction: none of them commits.
-/

namespace ZaloBot

open Sessions

namespace Sessions

namespace Session

variable {Key : Type} {Row : Key → Type} {Event NewEvent Error Value : Type}
  {allowed : Key → Prop} {fails : Error → Prop}

theorem writesWithin_mapEvent {rename : Event → NewEvent}
    {session : Session Row Event Error Value}
    (within : session.WritesWithin allowed fails) :
    (session.mapEvent rename).WritesWithin allowed fails := by
  induction session with
  | done value => trivial
  | fail error => exact within
  | read next failed ihNext ihFailed =>
      exact ⟨fun view => ihNext view (within.1 view), ihFailed within.2⟩
  | lock mode key wanted next failed ihNext ihFailed =>
      exact ⟨fun row => ihNext row (within.1 row), ihFailed within.2⟩
  | write key row next ihNext => exact ⟨within.1, ihNext within.2⟩
  | commit event next failed => exact within.elim
  | rollback next => exact within.elim
  | emit event key row next failed => exact within.elim

end Session

end Sessions

/-- The rows that an effect may write. -/
def IngressEffect.writes (accountId : Uuid) (effect : IngressEffect)
    (key : BotKey) : Prop :=
  match effect with
  | .grantConsent _ => key = .account accountId
  | .createManualExpenseAwaitingConfirmation expenseId _ _ _ _ _ _ _ =>
      key = .expense expenseId ∨ key = .conversationState accountId
  | .confirmExpense expenseId _ => key = .expense expenseId
  | .rejectExpense expenseId _ => key = .expense expenseId
  | .clearPendingAction _ => key = .conversationState accountId
  | .acceptReceiptSubmission _ _ _ =>
      (∃ scope scopeId period metric,
        key = .usageCounter scope scopeId period metric) ∨
      (∃ id, key = .submission id) ∨ (∃ id, key = .eventSubmission id) ∨
      ∃ dedupeKey, key = .job dedupeKey
  | .confirmReceipt submissionId expenseId _ =>
      key = .submission submissionId ∨ key = .receiptExpense submissionId ∨
      key = .expense expenseId
  | .rejectReceipt submissionId _ => key = .submission submissionId
  | .editReceiptDraft submissionId _ _ =>
      key = .draft submissionId ∨ key = .corrections submissionId
  | .editManualExpense expenseId _ _ => key = .expense expenseId
  | .recategorizeLatest _ =>
      (∃ id, key = .expense id) ∨ ∃ id, key = .draft id
  | .setLocale _ => key = .account accountId
  | .setTimezone _ =>
      key = .account accountId ∨
      ∃ frequency, key = .summarySchedule accountId frequency
  | .upsertSummarySchedule _ _ =>
      ∃ frequency, key = .summarySchedule accountId frequency
  | .disableSummarySchedule _ =>
      ∃ frequency, key = .summarySchedule accountId frequency
  | .armAccountDeletion _ => key = .conversationState accountId
  | .confirmAccountDeletion =>
      key = .account accountId ∨ key = .deletionRequest accountId ∨
      key = .conversationState accountId ∨ ∃ dedupeKey, key = .job dedupeKey
  | .requestAccountExport => ∃ dedupeKey, key = .job dedupeKey
  | .recordInsightSnapshot _ =>
      (∃ snapshot, key = .insightSnapshot snapshot) ∨
      ∃ dedupeKey, key = .job dedupeKey

/-- Whether a row says which events have been seen, which account a sender
has, or which source is listened to. -/
def BotKey.isEventRow : BotKey → Bool
  | .ingressControl => true
  | .inboundEvent _ _ => true
  | .providerIdentity _ _ => true
  | _ => false

theorem IngressEffect.not_isEventRow_of_writes {accountId : Uuid}
    {effect : IngressEffect} {key : BotKey}
    (writes : effect.writes accountId key) : key.isEventRow = false := by
  cases effect <;> simp only [IngressEffect.writes] at writes <;> aesop

namespace Ingress

section Statements

variable {Event : Type} {allowed : BotKey → Prop} {accountId : Uuid}

/-- Statements of ingress effects that write only certain rows. -/
abbrev EffectWithin {Error Value : Type} (allowed : BotKey → Prop)
    (statement : Session BotRow Event Error Value) : Prop :=
  statement.WritesWithin allowed fun _ => True

theorem within_expectAffected {error : IngressEffectError} {affected : Bool} :
    EffectWithin allowed
      (expectAffected error affected : Statement Event Unit) := by
  unfold expectAffected
  split <;> trivial

theorem within_silently {statement : Statement Event Unit}
    (within : EffectWithin allowed statement) :
    EffectWithin allowed (silently statement) :=
  .bind within fun _ => trivial

theorem within_fetchOne {Value : Type} {error : IngressEffectError}
    {ask : BotStore → Option Value} :
    EffectWithin allowed (fetchOne error ask : Statement Event Value) := by
  refine .bind (Session.writesWithin_query trivial) fun answer => ?_
  cases answer <;> trivial

theorem within_updateAccount {error : IngressEffectError}
    {condition : AccountRow → Bool} {change : AccountRow → AccountRow}
    (free : allowed (.account accountId)) :
    EffectWithin allowed (updateAccount error accountId condition change :
      Statement Event Unit) :=
  .bind (Session.writesWithin_updateRow trivial free) fun _ =>
    within_expectAffected

theorem within_replacePending {pending : Option PendingColumns}
    {expectedVersion : Int} (free : allowed (.conversationState accountId)) :
    EffectWithin allowed (replacePending accountId pending expectedVersion :
      Statement Event Unit) :=
  .bind (Session.writesWithin_updateRow trivial free) fun _ =>
    within_expectAffected

theorem within_upsertPendingAction {pending : PendingColumns}
    (free : allowed (.conversationState accountId)) :
    EffectWithin allowed (upsertPendingAction accountId pending :
      Statement Event Unit) := by
  refine .bind (Session.writesWithin_insertRow trivial free)
    fun inserted => ?_
  split
  · trivial
  · exact .bind within_fetchOne fun _ => within_replacePending free

theorem within_insertManualExpense {expenseId : Uuid} {row : ExpenseRow}
    (free : allowed (.expense expenseId)) :
    EffectWithin allowed (insertManualExpense expenseId row :
      Statement Event Unit) := by
  unfold insertManualExpense
  split
  · exact .bind (Session.writesWithin_insertRow trivial free) fun _ =>
      within_expectAffected
  · trivial

theorem within_settleExpense {expenseId : Uuid} {expectedVersion : Int}
    {state : ExpenseState} (free : allowed (.expense expenseId)) :
    EffectWithin allowed (settleExpense accountId expenseId expectedVersion
      state : Statement Event Unit) :=
  .bind (Session.writesWithin_updateRow trivial free) fun _ =>
    within_expectAffected

theorem within_editManualExpense {expenseId : Uuid} {expectedVersion : Int}
    {edit : Conversation.DraftEdit} (free : allowed (.expense expenseId)) :
    EffectWithin allowed (editManualExpenseInTransaction accountId expenseId
      expectedVersion edit : Statement Event Unit) := by
  refine .bind (Session.writesWithin_selectForUpdate trivial) fun row => ?_
  cases row with
  | none => trivial
  | some row =>
      dsimp only
      generalize (RustText.trim
        (edit.merchant.getD row.description)).isEmpty = isBlank
      cases isBlank with
      | true => trivial
      | false =>
          refine .bind (Session.writesWithin_query trivial) fun known => ?_
          cases known with
          | false => trivial
          | true =>
              generalize (validateTransactionType
                (edit.transactionType.getD row.transactionType)).toBool =
                  isValid
              cases isValid with
              | false => trivial
              | true =>
                  exact .bind (Session.writesWithin_updateRow trivial free)
                    fun _ => within_expectAffected

theorem within_forRows {Index Error : Type}
    {statement : Index → Session BotRow Event Error Unit}
    (within : ∀ index, EffectWithin allowed (statement index))
    (indices : List Index) :
    EffectWithin allowed (Session.forRows statement indices) := by
  induction indices with
  | nil => trivial
  | cons index indices ih => exact .bind (within index) fun _ => ih

theorem within_reported {Error Value : Type} {report : Error →
      IngressEffectError} {statement : Session BotRow Event Error Value}
    (within : EffectWithin allowed statement) :
    EffectWithin allowed (statement.mapError report) :=
  Session.writesWithin_mapError (fun _ _ => trivial) within

theorem within_enqueue {now : Timestamp} {request : EnqueueRequest}
    (free : allowed (.job request.dedupeKey)) :
    EffectWithin allowed (Receipts.enqueueInTransaction now request :
      Receipts.Statement Event _) := by
  unfold Receipts.enqueueInTransaction
  split
  · trivial
  · refine .bind (Session.writesWithin_insertRow trivial free)
      fun inserted => ?_
    cases inserted <;> trivial

end Statements

section Receipts

variable {Event : Type} {allowed : BotKey → Prop}
  {submissionId accountId expenseId : Uuid} {now : Timestamp}

theorem within_anyError {Value : Type}
    {statement : Receipts.Statement Event Value}
    (within : Receipts.Within allowed statement) :
    EffectWithin allowed statement :=
  within.mono (fun _ => id) fun _ _ => trivial

theorem within_confirmInTransaction {request : ConfirmRequest}
    (submission : allowed (.submission request.submissionId))
    (index : allowed (.receiptExpense request.submissionId))
    (expense : allowed (.expense request.expenseId)) :
    EffectWithin allowed (Receipts.confirmInTransaction now request :
      Receipts.Statement Event _) := by
  refine .bind Receipts.writesWithin_loadSubmissionForUpdate
    fun stored => ?_
  split
  · split <;> trivial
  split
  · trivial
  refine .bind (within_anyError Receipts.within_loadDraftForUpdate)
    fun draft => ?_
  split
  · trivial
  refine .bind (within_anyError
    (Receipts.within_insertConfirmedExpense index expense)) fun _ => ?_
  refine .bind Receipts.within_lookupConfirmedExpenseId fun _ => ?_
  exact .bind (Receipts.writesWithin_transitionState submission) fun _ =>
    trivial

theorem within_rejectInTransaction {request : RejectRequest}
    (submission : allowed (.submission request.submissionId)) :
    EffectWithin allowed (Receipts.rejectInTransaction now request :
      Receipts.Statement Event _) := by
  refine .bind Receipts.writesWithin_loadSubmissionForUpdate fun _ => ?_
  split
  · trivial
  split
  · trivial
  refine .bind (within_anyError Receipts.within_loadDraftForUpdate)
    fun draft => ?_
  split
  · trivial
  exact Receipts.writesWithin_transitionState submission

theorem within_editDraftInTransaction {toRfc3339 : Timestamp → String}
    {request : EditDraftRequest}
    (draft : allowed (.draft request.submissionId))
    (corrections : allowed (.corrections request.submissionId)) :
    EffectWithin allowed (Receipts.editDraftInTransaction toRfc3339 request :
      Receipts.Statement Event _) := by
  refine .bind Receipts.writesWithin_loadSubmissionForUpdate fun _ => ?_
  split
  · trivial
  refine .bind (within_anyError Receipts.within_loadDraftForUpdate)
    fun _ => ?_
  split
  · trivial
  refine .bind (within_anyError (Receipts.within_editedDraft corrections))
    fun _ => ?_
  exact .bind (within_anyError (Receipts.within_updateDraft draft))
    fun _ => trivial

theorem within_acceptSubmissionInTransaction
    {request : AcceptSubmissionRequest}
    (submissions : ∀ id, allowed (.submission id))
    (index : ∀ id, allowed (.eventSubmission id))
    (jobs : ∀ dedupeKey, allowed (.job dedupeKey)) :
    EffectWithin allowed (Receipts.acceptSubmissionInTransaction now request :
      Receipts.Statement Event _) := by
  have finishes (submissionId accountId ingestJobId : Uuid) :
      EffectWithin allowed (Receipts.finishAcceptInTransaction now submissionId
        accountId ingestJobId : Receipts.Statement Event _) := by
    have enqueues : EffectWithin allowed
        (Receipts.finishAcceptInTransaction.enqueueIngest now submissionId
          accountId ingestJobId : Receipts.Statement Event _) := by
      refine .bind (within_anyError (Receipts.within_enqueueReceiptJob jobs))
        fun outcome => ?_
      cases outcome <;> trivial
    refine .bind Receipts.writesWithin_loadSubmissionForUpdate
      fun current => ?_
    split
    · exact .bind (Receipts.writesWithin_transitionState (submissions _))
        fun _ => enqueues
    split
    · trivial
    · exact enqueues
  refine .bind (Session.writesWithin_query trivial) fun active => ?_
  split
  case isFalse => trivial
  refine .bind ?_ fun inserted => ?_
  · unfold Receipts.insertSubmission
    cases request.inboundEventId with
    | none => exact Session.writesWithin_insertRow trivial (submissions _)
    | some eventId =>
        refine .bind (Session.writesWithin_insertRow trivial (index _))
          fun eventFree => ?_
        split
        · refine .bind (Session.writesWithin_insertRow trivial
            (submissions _)) fun inserted => ?_
          split
          · trivial
          · exact ⟨index _, trivial⟩
        · trivial
  split
  · exact finishes _ _ _
  refine .bind ?_ fun existing => ?_
  · refine .bind (Session.writesWithin_selectForUpdate trivial)
      fun byId => ?_
    split
    · trivial
    · trivial
    · refine .bind (Session.writesWithin_query trivial) fun indexed => ?_
      split
      · trivial
      · exact .bind (Session.writesWithin_selectForUpdate trivial)
          fun _ => trivial
  split
  · trivial
  split
  · trivial
  split
  · exact finishes _ _ _
  · trivial

end Receipts

section Effects

variable {Event : Type} {event : Event} {environment : EffectEnvironment}
  {context : ContextEnvironment} {policy : IngressPolicy}
  {accountId inboundEventId : Uuid} {request : IngressRequest}
  {allowed : BotKey → Prop}

theorem within_onReceipt {Value : Type}
    {statement : Session BotRow Event ReceiptFailure Value}
    (within : EffectWithin allowed statement) :
    EffectWithin allowed (onReceipt environment statement) := by
  unfold onReceipt
  split
  · exact .bind (within_reported within) fun _ => trivial
  · trivial

theorem within_acceptReceiptSubmission {observedAt : Timestamp}
    {submissionId ingestJobId effectEventId : Uuid}
    (counters : ∀ scope scopeId period metric,
      allowed (.usageCounter scope scopeId period metric))
    (submissions : ∀ id, allowed (.submission id))
    (index : ∀ id, allowed (.eventSubmission id))
    (jobs : ∀ dedupeKey, allowed (.job dedupeKey)) :
    EffectWithin allowed (acceptReceiptSubmission environment context policy
      accountId inboundEventId observedAt submissionId ingestJobId
      effectEventId : Statement Event _) := by
  unfold acceptReceiptSubmission
  split
  · trivial
  refine .bind within_fetchOne fun timezone => ?_
  refine .bind ⟨fun _ => ⟨counters _ _ _ _, trivial⟩, trivial⟩
    fun counter => ?_
  split
  · exact .bind (Session.writesWithin_query trivial) fun _ => trivial
  · exact .bind (within_reported (within_acceptSubmissionInTransaction
      submissions index jobs)) fun _ => trivial

theorem within_recomputeSchedules {now : Timestamp}
    (schedules : ∀ frequency, allowed (.summarySchedule accountId frequency)) :
    EffectWithin allowed (recomputeAccountScheduleRuns environment accountId
      now : Statement Event Unit) := by
  refine .bind within_fetchOne fun timezone => ?_
  refine .bind (Session.writesWithin_query trivial) fun rows => ?_
  refine within_forRows (fun index => ?_) rows
  dsimp only
  split
  · trivial
  · exact .bind (Session.writesWithin_updateRow trivial (schedules _))
      fun _ => Session.writesWithin_pure

theorem within_upsertSchedule {frequency : String} {deliveryMinute : Int}
    (schedules : ∀ frequency, allowed (.summarySchedule accountId frequency)) :
    EffectWithin allowed (upsertSummarySchedule environment accountId request
      frequency deliveryMinute : Statement Event Unit) := by
  unfold upsertSummarySchedule
  split
  case isFalse => trivial
  split
  · trivial
  refine .bind within_fetchOne fun timezone => ?_
  split
  · trivial
  · exact Session.writesWithin_upsertRow trivial (schedules _)

theorem within_disableSchedule {frequency : Option String}
    (schedules : ∀ frequency, allowed (.summarySchedule accountId frequency)) :
    EffectWithin allowed (disableSummarySchedule accountId frequency :
      Statement Event Unit) :=
  within_forRows (fun _ => .bind
    (Session.writesWithin_updateRow trivial (schedules _)) fun _ =>
      Session.writesWithin_pure) _

theorem within_cancelQueued {serializationKey : String}
    (jobs : ∀ dedupeKey, allowed (.job dedupeKey)) :
    EffectWithin allowed (cancelQueuedBySerializationKeyInTransaction
      environment serializationKey : Statement Event Unit) :=
  within_forRows (fun _ => .bind
    (Session.writesWithin_updateRow trivial (jobs _)) fun _ =>
      Session.writesWithin_pure) _

theorem within_confirmAccountDeletion {observedAt : Timestamp}
    (account : allowed (.account accountId))
    (deletionRequest : allowed (.deletionRequest accountId))
    (conversation : allowed (.conversationState accountId))
    (jobs : ∀ dedupeKey, allowed (.job dedupeKey)) :
    EffectWithin allowed (confirmAccountDeletion environment context
      accountId observedAt : Statement Event Unit) := by
  refine .bind (within_updateAccount account) fun _ => ?_
  refine .bind (Session.writesWithin_query trivial) fun expenseCount => ?_
  refine .bind (Session.writesWithin_upsertRow trivial deletionRequest)
    fun _ => ?_
  refine .bind within_fetchOne fun requestId => ?_
  refine .bind ?_ fun _ => ?_
  · refine .bind (within_cancelQueued jobs) fun _ => ?_
    refine .bind (within_cancelQueued jobs) fun _ => ?_
    exact .bind (within_reported (within_enqueue (jobs _))) fun _ => trivial
  · exact .bind (Session.writesWithin_updateRow trivial conversation)
      fun _ => trivial

theorem within_recordInsightSnapshot {periodKind : String}
    {observedAt : Timestamp}
    (snapshots : ∀ snapshot, allowed (.insightSnapshot snapshot))
    (jobs : ∀ dedupeKey, allowed (.job dedupeKey)) :
    EffectWithin allowed (recordInsightSnapshot event environment policy
      accountId observedAt periodKind) := by
  unfold recordInsightSnapshot
  split
  · trivial
  rename_i kind _
  refine .bind within_fetchOne fun locale => ?_
  refine .bind (within_reported (Session.writesWithin_mapEvent ?_))
    fun _ => trivial
  unfold Insights.recordSnapshotInTransaction
  split
  · trivial
  refine .bind (Session.writesWithin_query trivial) fun _ => ?_
  refine .bind (Session.writesWithin_query trivial) fun _ => ?_
  refine .bind (Session.writesWithin_query trivial) fun _ => ?_
  refine .bind ⟨fun _ => ⟨snapshots _, trivial⟩, trivial⟩ fun snapshot => ?_
  refine .bind ?_ fun _ => trivial
  unfold Insights.requestNarrative
  split
  case isFalse => trivial
  refine .bind (Session.writesWithin_query trivial) fun remaining => ?_
  split
  · exact .bind (Session.writesWithin_mapError (fun _ _ => trivial)
      (within_enqueue (jobs _))) fun _ => trivial
  · trivial

/-- An effect writes only the rows it may write. -/
theorem applyEffect_within (effect : IngressEffect) :
    EffectWithin (effect.writes accountId) (applyEffect event environment
      context policy accountId inboundEventId request effect) := by
  cases effect with
  | grantConsent consentVersion =>
      exact within_silently (within_updateAccount rfl)
  | createManualExpenseAwaitingConfirmation expenseId =>
      exact within_silently (.bind (within_insertManualExpense (.inl rfl))
        fun _ => within_upsertPendingAction (.inr rfl))
  | confirmExpense expenseId =>
      exact within_silently (within_settleExpense rfl)
  | rejectExpense expenseId =>
      exact within_silently (within_settleExpense rfl)
  | clearPendingAction expectedVersion =>
      exact within_silently (within_replacePending rfl)
  | acceptReceiptSubmission submissionId ingestJobId effectEventId =>
      rw [applyEffect]
      split
      · exact within_acceptReceiptSubmission
          (fun _ _ _ _ => .inl ⟨_, _, _, _, rfl⟩)
          (fun _ => .inr (.inl ⟨_, rfl⟩))
          (fun _ => .inr (.inr (.inl ⟨_, rfl⟩)))
          fun _ => .inr (.inr (.inr ⟨_, rfl⟩))
      · trivial
  | confirmReceipt submissionId expenseId expectedDraftVersion =>
      exact within_silently (within_onReceipt (within_confirmInTransaction
        (.inl rfl) (.inr (.inl rfl)) (.inr (.inr rfl))))
  | rejectReceipt submissionId expectedDraftVersion =>
      exact within_silently (within_onReceipt
        (within_rejectInTransaction rfl))
  | editReceiptDraft submissionId expectedDraftVersion edit =>
      exact within_silently (within_onReceipt
        (within_editDraftInTransaction (.inl rfl) (.inr rfl)))
  | editManualExpense expenseId expectedVersion edit =>
      exact within_silently (within_editManualExpense rfl)
  | recategorizeLatest categoryKey =>
      exact within_silently (Receipts.within_recategorizeLatest
        (fun _ => .inl ⟨_, rfl⟩) fun _ => .inr ⟨_, rfl⟩)
  | setLocale locale => exact within_silently (within_updateAccount rfl)
  | setTimezone iana =>
      rw [applyEffect]
      split
      · exact within_silently (.bind (within_updateAccount (.inl rfl))
          fun _ => within_recomputeSchedules fun _ => .inr ⟨_, rfl⟩)
      · trivial
  | upsertSummarySchedule frequency deliveryMinute =>
      exact within_silently (within_upsertSchedule fun _ => ⟨_, rfl⟩)
  | disableSummarySchedule frequency =>
      exact within_silently (within_disableSchedule fun _ => ⟨_, rfl⟩)
  | armAccountDeletion expiresAt =>
      exact within_silently (within_upsertPendingAction rfl)
  | confirmAccountDeletion =>
      exact within_silently (within_confirmAccountDeletion (.inl rfl)
        (.inr (.inl rfl)) (.inr (.inr (.inl rfl)))
        fun _ => .inr (.inr (.inr ⟨_, rfl⟩)))
  | requestAccountExport =>
      exact within_silently (.bind (within_reported
        (within_enqueue ⟨_, rfl⟩)) fun _ => trivial)
  | recordInsightSnapshot periodKind =>
      exact within_recordInsightSnapshot (fun _ => .inl ⟨_, rfl⟩)
        fun _ => .inr ⟨_, rfl⟩

/-- Several effects write only the rows that one of them may write. -/
theorem applyEffects_within (effects : List IngressEffect) :
    EffectWithin (fun key => ∃ effect ∈ effects, effect.writes accountId key)
      (applyEffects event environment context policy accountId inboundEventId
        request effects) := by
  induction effects with
  | nil => trivial
  | cons effect effects ih =>
      refine .bind ((applyEffect_within effect).mono
        (fun key writes => ⟨effect, List.mem_cons_self, writes⟩)
        fun _ _ => trivial) fun reply => ?_
      refine .bind (ih.mono (fun key ⟨later, member, writes⟩ =>
        ⟨later, List.mem_cons_of_mem _ member, writes⟩) fun _ _ => trivial)
        fun _ => trivial

end Effects

section Context

variable {Event : Type} {environment : ContextEnvironment}
  {policy : IngressPolicy} {accountId inboundEventId : Uuid}
  {request : IngressRequest} {allowed : BotKey → Prop}

theorem within_loadTotals {frequency : Frequency} {observedAt : Timestamp}
    {timezone fallbackCurrency : String} :
    EffectWithin allowed (loadInteractiveTotals environment accountId
      frequency observedAt timezone fallbackCurrency :
        Statement Event _) := by
  unfold loadInteractiveTotals
  split
  · trivial
  · exact within_fetchOne

theorem within_loadPendingAction {recent : List RecentExpense}
    {row : Option ConversationRow} :
    EffectWithin allowed (loadPendingAction environment accountId recent row :
      Statement Event _) := by
  unfold loadPendingAction
  split
  · trivial
  split
  · trivial
  dsimp only
  split
  · refine .bind ?_ fun _ => trivial
    unfold loadPendingExpense
    split
    · trivial
    · exact Session.writesWithin_query trivial
  · refine .bind ?_ fun _ => trivial
    exact .bind within_fetchOne fun _ => Session.writesWithin_query trivial
  · trivial

/-- The context of a decision is only read. -/
theorem within_loadDecisionContext :
    EffectWithin allowed (loadDecisionContext environment policy accountId
      inboundEventId request : Statement Event _) := by
  refine .bind within_fetchOne fun account => ?_
  refine .bind (Session.writesWithin_query trivial) fun conversation => ?_
  refine .bind within_fetchOne fun preferences => ?_
  refine .bind within_fetchOne fun today => ?_
  refine .bind within_loadTotals fun week => ?_
  refine .bind within_loadTotals fun month => ?_
  refine .bind (Session.writesWithin_query trivial) fun count => ?_
  refine .bind (Session.writesWithin_query trivial) fun schedules => ?_
  refine .bind (Session.writesWithin_query trivial) fun remaining => ?_
  refine .bind (Session.writesWithin_query trivial) fun recent => ?_
  exact .bind within_loadPendingAction fun _ => trivial

end Context

section Processing

variable {environment : ProcessEnvironment} {request : IngressRequest}
  {observation : IngressObservation} {allowed : BotKey → Prop}

theorem within_enqueueReply {accountId : Option Uuid} {body : String}
    (counters : ∀ scope scopeId period metric,
      allowed (.usageCounter scope scopeId period metric))
    (messages : ∀ idempotencyKey, allowed (.outbound idempotencyKey))
    (jobs : ∀ dedupeKey, allowed (.job dedupeKey)) :
    EffectWithin allowed (enqueueReply environment request accountId body) := by
  refine within_reported (.bind ?_ fun deliver => ?_)
  · unfold Followups.outboundDeliveryAllowed
    split
    · split
      · exact .bind ⟨fun _ => ⟨counters _ _ _ _, trivial⟩, trivial⟩
          fun _ => trivial
      · trivial
    · trivial
  · unfold Followups.enqueueDecided
    split
    case isFalse => trivial
    refine .bind (Session.writesWithin_insertRow trivial (messages _))
      fun _ => ?_
    refine .bind (Session.writesWithin_query trivial) fun outboundId => ?_
    split
    · trivial
    split
    · exact .bind (within_enqueue (jobs _)) fun _ => trivial
    · trivial

end Processing

end Ingress

end ZaloBot
