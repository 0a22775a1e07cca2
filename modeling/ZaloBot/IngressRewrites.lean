import ZaloBot.IngressMoves

/-!
# The statements of an event move rows

Every statement that an event runs rewrites rows by the moves of its effects.
-/

namespace ZaloBot

open Sessions

namespace Ingress

section Statements

variable {Event : Type} {moves : Moves BotRow} {accountId : Uuid}

theorem rewrites_expectAffected {error : IngressEffectError}
    {affected : Bool} :
    (expectAffected error affected : Statement Event Unit).Rewrites moves := by
  unfold expectAffected
  split
  · exact Session.rewrites_pure
  · exact Session.rewrites_fail

theorem rewrites_fetchOne {Value : Type} {error : IngressEffectError}
    {ask : BotStore → Option Value} :
    (fetchOne error ask : Statement Event Value).Rewrites moves :=
  Session.WritesWithin.rewrites_nothing within_fetchOne

theorem rewrites_silently {statement : Statement Event Unit}
    (rewrites : statement.Rewrites moves) :
    (silently statement).Rewrites moves :=
  rewrites.bind fun _ => Session.rewrites_pure

theorem rewrites_forRows {Index Error : Type}
    {statement : Index → Session BotRow Event Error Unit}
    (rewrites : ∀ index, (statement index).Rewrites moves)
    (indices : List Index) :
    (Session.forRows statement indices).Rewrites moves := by
  induction indices with
  | nil => exact Session.rewrites_pure
  | cons index indices ih => exact (rewrites index).bind fun _ => ih

theorem rewrites_updateAccount {error : IngressEffectError}
    {condition : AccountRow → Bool} {change : AccountRow → AccountRow}
    (allowed : ∀ row, condition row = true →
      moves (.account accountId) (some row) (some (change row))) :
    (updateAccount error accountId condition change :
      Statement Event Unit).Rewrites moves :=
  .bind (Session.rewrites_updateRow allowed) fun _ => rewrites_expectAffected

theorem rewrites_replacePending {pending : Option PendingColumns}
    {expectedVersion : Int}
    (allowed : ∀ row : ConversationRow, row.version = expectedVersion →
      moves (.conversationState accountId) (some row)
        (some ⟨pending, row.version + 1⟩)) :
    (replacePending accountId pending expectedVersion :
      Statement Event Unit).Rewrites moves :=
  .bind (Session.rewrites_updateRow fun row meets =>
    allowed row (by simpa using meets)) fun _ => rewrites_expectAffected

theorem rewrites_upsertPendingAction {pending : PendingColumns}
    (begun : moves (.conversationState accountId) none
      (some ⟨some pending, 1⟩))
    (armed : ∀ row : ConversationRow, moves (.conversationState accountId)
      (some row) (some ⟨some pending, row.version + 1⟩)) :
    (upsertPendingAction accountId pending :
      Statement Event Unit).Rewrites moves := by
  refine .bind (Session.rewrites_insertRow begun) fun inserted => ?_
  split
  · exact Session.rewrites_pure
  · exact .bind rewrites_fetchOne fun _ =>
      rewrites_replacePending fun row _ => armed row

theorem rewrites_insertManualExpense {expenseId : Uuid} {row : ExpenseRow}
    (allowed : isManualExpense row.currency row.version = true →
      moves (.expense expenseId) none (some row)) :
    (insertManualExpense expenseId row : Statement Event Unit).Rewrites
      moves := by
  unfold insertManualExpense
  split
  · rename_i checked
    exact .bind (Session.rewrites_insertRow (allowed checked)) fun _ =>
      rewrites_expectAffected
  · exact Session.rewrites_fail

theorem isAwaiting_iff {accountId : Uuid} {version : Int} {row : ExpenseRow} :
    isAwaiting accountId version row = true ↔
      row.accountId = accountId ∧ row.version = version ∧
        row.state = .awaitingConfirmation := by
  simp [isAwaiting, and_assoc]

theorem rewrites_settleExpense {expenseId : Uuid} {expectedVersion : Int}
    {state : ExpenseState}
    (allowed : ∀ row, isAwaiting accountId expectedVersion row = true →
      moves (.expense expenseId) (some row)
        (some { row with state := state, version := row.version + 1 })) :
    (settleExpense accountId expenseId expectedVersion state :
      Statement Event Unit).Rewrites moves :=
  .bind (Session.rewrites_updateRow allowed) fun _ => rewrites_expectAffected

/-- The update works on the row that was selected, which is locked. -/
theorem rewrites_editManualExpense {expenseId : Uuid} {expectedVersion : Int}
    {edit : Conversation.DraftEdit}
    (allowed : ∀ row, isAwaiting accountId expectedVersion row = true →
      (RustText.trim (edit.merchant.getD row.description)).isEmpty = false →
      edit.categoryKey.getD row.categoryKey ∈ categoryKeys →
      moves (.expense expenseId) (some row) (some { row with
        amountMinor := edit.amountMinor.getD row.amountMinor
        description := RustText.trim (edit.merchant.getD row.description)
        categoryKey := edit.categoryKey.getD row.categoryKey
        occurredAt := edit.occurredAt.getD row.occurredAt
        transactionType := edit.transactionType.getD row.transactionType
        version := row.version + 1 })) :
    (editManualExpenseInTransaction accountId expenseId expectedVersion edit :
      Statement Event Unit).Rewrites moves := by
  intro known
  refine Session.movesRows_select (fun row awaiting _ => ?_) trivial
  dsimp only
  generalize named : (RustText.trim
    (edit.merchant.getD row.description)).isEmpty = isBlank
  cases isBlank with
  | true => trivial
  | false =>
      refine ⟨fun _ => ?_, trivial⟩
      change (if decide _ = true then _ else _ :
        Statement Event Unit).MovesRows moves _ _
      split
      case isFalse => trivial
      rename_i category
      split
      case isFalse => trivial
      refine Session.MovesRows.andThen (Session.movesRows_updateRow ?_)
        fun _ => rewrites_expectAffected
      intro current _ admits
      have same : current = row :=
        Option.some.inj (Overlay.eq_of_admits_set admits)
      subst same
      exact allowed current awaiting (by simpa using named)
        (of_decide_eq_true category)

theorem rewrites_recategorizeLatest {latest : Option Uuid}
    {categoryKey : String}
    (expense : ∀ id (row : ExpenseRow), row.accountId = accountId →
      row.state = .confirmed → categoryKey ∈ categoryKeys →
      moves (.expense id) (some row)
        (some { row with categoryKey := categoryKey }))
    (draft : ∀ id (row : DraftRow), row.accountId = accountId →
      moves (.draft id) (some row)
        (some { row with categoryKey := categoryKey })) :
    (Expenses.recategorizeLatestInTransaction latest accountId categoryKey :
      Statement Event Unit).Rewrites moves := by
  intro known
  refine ⟨fun _ => ?_, trivial⟩
  change (if decide _ = true then _ else _ :
    Statement Event Unit).MovesRows moves _ _
  split
  case isFalse => trivial
  rename_i category
  cases latest with
  | none => trivial
  | some expenseId =>
      refine Session.movesRows_select (fun row selected _ => ?_) trivial
      simp only [Bool.and_eq_true, decide_eq_true_eq] at selected
      refine Session.MovesRows.andThen (Session.movesRows_updateRow ?_)
        fun updated => ?_
      · intro current _ admits
        have same : current = row :=
          Option.some.inj (Overlay.eq_of_admits_set admits)
        subst same
        exact expense expenseId current selected.1 selected.2
          (of_decide_eq_true category)
      · split
        case isFalse => exact Session.rewrites_fail
        split
        · exact Session.rewrites_pure
        · exact .bind (Session.rewrites_updateRow fun row owned =>
            draft _ row (by simpa using owned)) fun _ => Session.rewrites_pure

theorem rewrites_enqueue {now : Timestamp} {request : EnqueueRequest}
    (allowed : ∀ version, moves (.job request.dedupeKey) none
      (some (WorkStore.queuedRow now version request))) :
    (Receipts.enqueueInTransaction now request :
      Receipts.Statement Event _).Rewrites moves := by
  unfold Receipts.enqueueInTransaction
  split
  · exact Session.rewrites_fail
  · refine .bind (Session.rewrites_insertRow (allowed _)) fun inserted => ?_
    cases inserted <;> exact Session.rewrites_pure

/-- The job whose time is set has just been inserted. -/
theorem rewrites_enqueueReceiptJob {now : Timestamp}
    {jobId submissionId owner : Uuid} {jobType : String}
    (queued : ∀ dedupeKey version (request : EnqueueRequest),
      request.serializationKey = some (receiptSerializationKey owner) →
      moves (.job dedupeKey) none
        (some (WorkStore.queuedRow now version request)))
    (timed : ∀ dedupeKey (row : JobRow) runAt, row.state = .queued →
      row.serializationKey = some (receiptSerializationKey owner) →
      moves (.job dedupeKey) (some row) (some { row with runAt := runAt })) :
    (Receipts.enqueueReceiptJob now jobId jobType submissionId owner :
      Receipts.Statement Event _).Rewrites moves := by
  intro known
  unfold Receipts.enqueueReceiptJob Receipts.enqueueInTransaction
  dsimp only
  split
  · trivial
  refine ⟨fun existing _ free => ?_, fun existing taken => ?_, trivial⟩
  · cases existing with
    | some existing => simp at free
    | none =>
        refine ⟨fun old admits => ?_, ?_⟩
        · rw [Overlay.eq_of_admits_set admits]
          exact queued _ _ _ rfl
        · change Session.MovesRows moves _ _ ((Session.updateRow _ _ _ _ :
            Receipts.Statement Event Bool) >>= fun _ =>
              pure EnqueueOutcome.enqueued)
          refine Session.MovesRows.andThen (Session.movesRows_updateRow ?_)
            fun _ => Session.rewrites_pure
          intro row _ admits
          have same := Option.some.inj (Overlay.eq_of_admits_set admits)
          rw [same]
          exact timed _ _ _ rfl rfl
  · cases existing with
    | none => simp at taken
    | some existing => trivial

end Statements

section Receipts

variable {Event : Type} {moves : Moves BotRow}
  {submissionId owner expenseId : Uuid} {now : Timestamp}

theorem rewrites_loadSubmissionForUpdate :
    (Receipts.loadSubmissionForUpdate submissionId owner :
      Receipts.Statement Event _).Rewrites moves :=
  Session.WritesWithin.rewrites_nothing
    Receipts.writesWithin_loadSubmissionForUpdate

theorem rewrites_transitionState {current next : ReceiptState}
    {failureErrorClass : Option String} {reviewExpiryHours : Option Int}
    {confirmedExpenseId duplicateOfSubmissionId : Option Uuid}
    (allowed : ∀ row : SubmissionRow, row.accountId = owner →
      canTransition row.state next = true →
      moves (.submission submissionId) (some row)
        (some (row.transitioned now next failureErrorClass reviewExpiryHours
          confirmedExpenseId duplicateOfSubmissionId))) :
    (Receipts.transitionState now submissionId owner current next
      failureErrorClass reviewExpiryHours confirmedExpenseId
      duplicateOfSubmissionId : Receipts.Statement Event _).Rewrites
        moves := by
  intro known
  unfold Receipts.transitionState
  split
  case isFalse => trivial
  rename_i legal
  refine Session.movesRows_select (fun row selected _ => ?_) trivial
  simp only [Bool.and_eq_true, decide_eq_true_eq] at selected
  dsimp only
  split
  · refine ⟨fun old admits => ?_, trivial⟩
    rw [Overlay.eq_of_admits_set admits]
    refine allowed row selected.1 ?_
    rw [selected.2]
    exact legal
  · trivial

/-- The draft that is loaded is locked. -/
theorem movesRows_loadDraftForUpdate {known : Overlay BotRow} :
    (Receipts.loadDraftForUpdate submissionId owner :
      Receipts.Statement Event _).MovesRows moves known fun draft last =>
        draft.accountId = owner ∧
          last (.draft submissionId) = some (some draft) := by
  refine Session.movesRows_select (fun row selected _ => ?_) trivial
  refine ⟨by simpa using selected, ?_⟩
  simp [Overlay.set]

theorem rewrites_insertConfirmedExpense {draft : DraftRow}
    (index : moves (.receiptExpense submissionId) none (some expenseId))
    (expense : moves (.expense expenseId) none
      (some (Receipts.confirmedExpense owner submissionId draft))) :
    (Receipts.insertConfirmedExpense expenseId owner submissionId draft :
      Receipts.Statement Event _).Rewrites moves := by
  refine .bind (Session.rewrites_insertRow index) fun submissionFree => ?_
  split
  · refine .bind (Session.rewrites_insertRow expense) fun inserted => ?_
    split
    · exact Session.rewrites_pure
    · exact Session.rewrites_fail
  · exact Session.rewrites_pure

theorem rewrites_confirmInTransaction {request : ConfirmRequest}
    (index : moves (.receiptExpense request.submissionId) none
      (some request.expenseId))
    (expense : ∀ draft : DraftRow,
      draft.version = request.expectedDraftVersion →
      moves (.expense request.expenseId) none
        (some (Receipts.confirmedExpense request.accountId
          request.submissionId draft)))
    (submission : ∀ (row : SubmissionRow) next failureErrorClass
      reviewExpiryHours confirmedExpenseId duplicateOfSubmissionId,
      row.accountId = request.accountId →
      canTransition row.state next = true →
      moves (.submission request.submissionId) (some row)
        (some (row.transitioned now next failureErrorClass reviewExpiryHours
          confirmedExpenseId duplicateOfSubmissionId))) :
    (Receipts.confirmInTransaction now request :
      Receipts.Statement Event _).Rewrites moves := by
  refine .bind rewrites_loadSubmissionForUpdate fun stored => ?_
  split
  · split
    · exact Session.rewrites_fail
    · exact Session.rewrites_pure
  split
  · exact Session.rewrites_fail
  intro known
  refine .andThen movesRows_loadDraftForUpdate fun draft => ?_
  split
  · exact Session.rewrites_fail
  rename_i sameVersion
  refine .bind (rewrites_insertConfirmedExpense index
    (expense draft (by simpa using sameVersion))) fun _ => ?_
  refine .bind (Session.WritesWithin.rewrites_nothing
    Receipts.within_lookupConfirmedExpenseId) fun _ => ?_
  exact .bind (rewrites_transitionState fun row isOwner legal =>
    submission row _ _ _ _ _ isOwner legal) fun _ => Session.rewrites_pure

theorem rewrites_rejectInTransaction {request : RejectRequest}
    (submission : ∀ (row : SubmissionRow) next failureErrorClass
      reviewExpiryHours confirmedExpenseId duplicateOfSubmissionId,
      row.accountId = request.accountId →
      canTransition row.state next = true →
      moves (.submission request.submissionId) (some row)
        (some (row.transitioned now next failureErrorClass reviewExpiryHours
          confirmedExpenseId duplicateOfSubmissionId))) :
    (Receipts.rejectInTransaction now request :
      Receipts.Statement Event _).Rewrites moves := by
  refine .bind rewrites_loadSubmissionForUpdate fun stored => ?_
  split
  · exact Session.rewrites_pure
  split
  · exact Session.rewrites_fail
  intro known
  refine .andThen movesRows_loadDraftForUpdate fun draft => ?_
  split
  · exact Session.rewrites_fail
  exact rewrites_transitionState fun row isOwner legal =>
    submission row _ _ _ _ _ isOwner legal

/-- The draft stays locked while its corrections are recorded. -/
theorem rewrites_editDraftInTransaction {toRfc3339 : Timestamp → String}
    {request : EditDraftRequest}
    (draft : ∀ row next : DraftRow, row.accountId = request.accountId →
      row.version = request.expectedVersion → next.id = row.id →
      next.accountId = row.accountId → next.version = row.version + 1 →
      moves (.draft request.submissionId) (some row) (some next))
    (corrections : ∀ old new,
      moves (.corrections request.submissionId) old new) :
    (Receipts.editDraftInTransaction toRfc3339 request :
      Receipts.Statement Event _).Rewrites moves := by
  refine .bind rewrites_loadSubmissionForUpdate fun stored => ?_
  split
  · exact Session.rewrites_fail
  intro known
  refine .bind movesRows_loadDraftForUpdate fun before last isLocked => ?_
  obtain ⟨isOwner, isKnown⟩ := isLocked
  split
  · trivial
  rename_i sameVersion
  have edits : Receipts.Within (fun key =>
      key = .corrections request.submissionId)
      (Receipts.editedDraft toRfc3339 request before :
        Receipts.Statement Event _) := Receipts.within_editedDraft rfl
  refine .bind ((edits.rewrites fun key old new isCorrections => by
    subst isCorrections
    exact corrections old new).keepsKnown edits (by simp) isKnown)
    fun next later stillKnown => ?_
  have checks : Receipts.Within (fun _ => False)
      (Receipts.ensureCategory next.categoryKey :
        Receipts.Statement Event _) := Receipts.within_ensureCategory
  refine .andThen (.bind (checks.rewrites_nothing.keepsKnown checks id
    stillKnown) fun _ final finallyKnown =>
      .andThen (Session.movesRows_updateRow ?_) fun updated => ?_)
    fun _ => Session.rewrites_pure
  · intro row _ admits
    have same : row = before := Option.some.inj (admits _ finallyKnown)
    subst same
    exact draft row _ isOwner (by simpa using sameVersion) rfl rfl rfl
  · split
    · exact Session.rewrites_pure
    · exact Session.rewrites_fail

theorem rewrites_acceptSubmissionInTransaction
    {request : AcceptSubmissionRequest}
    (inserted : moves (.submission request.submissionId) none
      (some (SubmissionRow.new request.accountId request.inboundEventId)))
    (submission : ∀ id (row : SubmissionRow) next failureErrorClass
      reviewExpiryHours confirmedExpenseId duplicateOfSubmissionId,
      row.accountId = request.accountId →
      canTransition row.state next = true →
      moves (.submission id) (some row)
        (some (row.transitioned now next failureErrorClass reviewExpiryHours
          confirmedExpenseId duplicateOfSubmissionId)))
    (index : ∀ id old new, moves (.eventSubmission id) old new)
    (queued : ∀ dedupeKey version (enqueued : EnqueueRequest),
      enqueued.serializationKey =
        some (receiptSerializationKey request.accountId) →
      moves (.job dedupeKey) none
        (some (WorkStore.queuedRow now version enqueued)))
    (timed : ∀ dedupeKey (row : JobRow) runAt, row.state = .queued →
      row.serializationKey =
        some (receiptSerializationKey request.accountId) →
      moves (.job dedupeKey) (some row) (some { row with runAt := runAt })) :
    (Receipts.acceptSubmissionInTransaction now request :
      Receipts.Statement Event _).Rewrites moves := by
  have finishes (submissionId ingestJobId : Uuid) :
      (Receipts.finishAcceptInTransaction now submissionId request.accountId
        ingestJobId : Receipts.Statement Event _).Rewrites moves := by
    have enqueues :
        (Receipts.finishAcceptInTransaction.enqueueIngest now submissionId
          request.accountId ingestJobId :
            Receipts.Statement Event _).Rewrites moves := by
      refine .bind (rewrites_enqueueReceiptJob queued timed)
        fun outcome => ?_
      cases outcome <;> exact Session.rewrites_pure
    refine .bind rewrites_loadSubmissionForUpdate fun current => ?_
    split
    · exact .bind (rewrites_transitionState fun row isOwner legal =>
        submission _ row _ _ _ _ _ isOwner legal) fun _ => enqueues
    split
    · exact Session.rewrites_pure
    · exact enqueues
  refine .bind Session.rewrites_query fun active => ?_
  split
  case isFalse => exact Session.rewrites_fail
  refine .bind ?_ fun isInserted => ?_
  · unfold Receipts.insertSubmission
    cases isEvent : request.inboundEventId <;> rw [isEvent] at inserted
    case none => exact Session.rewrites_insertRow inserted
    case some eventId =>
      refine .bind (Session.rewrites_insertRow (index _ _ _))
        fun eventFree => ?_
      split
      · refine .bind (Session.rewrites_insertRow inserted)
          fun isInserted => ?_
        split
        · exact Session.rewrites_pure
        · exact fun known => ⟨fun _ _ => index _ _ _, trivial⟩
      · exact Session.rewrites_pure
  split
  · exact finishes _ _
  refine .bind ?_ fun existing => ?_
  · have reads : EffectWithin (fun _ => False)
        (Receipts.loadExistingSubmission request.submissionId
          request.inboundEventId : Receipts.Statement Event _) := by
      refine .bind (Session.writesWithin_selectForUpdate trivial)
        fun byId => ?_
      split
      · trivial
      · trivial
      · refine .bind (Session.writesWithin_query trivial) fun indexed => ?_
        split
        · trivial
        · exact .bind (Session.writesWithin_selectForUpdate trivial)
            fun _ => trivial
    exact reads.rewrites_nothing
  split
  · exact Session.rewrites_fail
  split
  · exact Session.rewrites_fail
  rename_i sameAccount
  split
  · rw [show _ = request.accountId from not_not.mp sameAccount]
    exact finishes _ _
  · exact Session.rewrites_pure

end Receipts

section Effects

variable {Event : Type} {event : Event} {environment : EffectEnvironment}
  {context : ContextEnvironment} {policy : IngressPolicy}
  {accountId inboundEventId : Uuid} {request : IngressRequest}
  {moves : Moves BotRow} {effects : List IngressEffect}

theorem rewrites_onReceipt {Value : Type}
    {statement : Session BotRow Event ReceiptFailure Value}
    (rewrites : statement.Rewrites moves) :
    (onReceipt environment statement).Rewrites moves := by
  unfold onReceipt
  split
  · exact .bind rewrites.mapError fun _ => Session.rewrites_pure
  · exact Session.rewrites_fail

theorem rewrites_increment {Error : Type} {failed : Error}
    {scope scopeId period metric : String} {limit : Int}
    (counted : ∀ old, moves (.usageCounter scope scopeId period metric) old
      (some ⟨(old.map UsageCounterRow.count).getD 0 + 1, limit⟩)) :
    (UsageQuota.incrementInTransaction failed scope scopeId period metric
      limit : Session BotRow Event Error _).Rewrites moves := by
  intro known
  refine ⟨fun counter _ _ => ⟨fun old admits => ?_, trivial⟩,
    fun counter missed => by simp at missed, trivial⟩
  rw [Overlay.eq_of_admits_set admits]
  exact counted counter

theorem rewrites_acceptReceiptSubmission {observedAt : Timestamp}
    {submissionId ingestJobId effectEventId : Uuid}
    (asked : .acceptReceiptSubmission submissionId ingestJobId
      effectEventId ∈ effects) :
    (acceptReceiptSubmission environment context policy accountId
      inboundEventId observedAt submissionId ingestJobId effectEventId :
        Statement Event _).Rewrites
          (EventMoves (some accountId) effects request) := by
  unfold acceptReceiptSubmission
  split
  · exact Session.rewrites_fail
  refine .bind rewrites_fetchOne fun timezone => ?_
  refine .bind (rewrites_increment fun old =>
    ⟨⟨accountId, rfl, rfl, rfl⟩, .counted old _⟩) fun counter => ?_
  split
  · exact .bind Session.rewrites_query fun _ => Session.rewrites_pure
  · refine .bind (Session.Rewrites.mapError
      (rewrites_acceptSubmissionInTransaction
        (.accepted accountId _ rfl ⟨_, _, _, asked⟩) ?_ (fun _ _ _ => trivial)
        (fun _ version request keyed => .queued _ version request
          fun owner isJob => congrArg some (keyed ▸ isJob).eq_of_receipt)
        fun _ row runAt queued keyed => .timed row runAt queued
          fun owner isJob => congrArg some (keyed ▸ isJob).eq_of_receipt))
      fun _ => Session.rewrites_pure
    intro _ row next _ _ _ _ isOwner legal
    exact .moved row _ next _ _ _ _ (congrArg some isOwner.symm) legal

theorem rewrites_recomputeSchedules {now : Timestamp} {iana : String}
    (asked : .setTimezone iana ∈ effects) :
    (recomputeAccountScheduleRuns environment accountId now :
      Statement Event Unit).Rewrites
        (EventMoves (some accountId) effects request) := by
  refine .bind rewrites_fetchOne fun timezone => ?_
  refine .bind Session.rewrites_query fun rows => ?_
  refine rewrites_forRows (fun index => ?_) rows
  dsimp only
  split
  · exact Session.rewrites_fail
  · exact .bind (Session.rewrites_updateRow fun row _ =>
      ⟨rfl, .retimed row iana _ asked⟩) fun _ => Session.rewrites_pure

theorem rewrites_upsertSchedule {frequency : String} {deliveryMinute : Int}
    (asked : .upsertSummarySchedule frequency deliveryMinute ∈ effects) :
    (upsertSummarySchedule environment accountId request frequency
      deliveryMinute : Statement Event Unit).Rewrites
        (EventMoves (some accountId) effects request) := by
  unfold upsertSummarySchedule
  split
  case isFalse => exact Session.rewrites_fail
  rename_i bounded
  split
  · exact Session.rewrites_fail
  refine .bind rewrites_fetchOne fun timezone => ?_
  split
  · exact Session.rewrites_fail
  · exact Session.rewrites_upsertRow
      ⟨rfl, .entered _ frequency _ _ asked bounded⟩
      fun row => ⟨rfl, .changed row frequency _ _ asked bounded⟩

theorem rewrites_disableSchedule {frequency : Option String}
    (asked : .disableSummarySchedule frequency ∈ effects) :
    (disableSummarySchedule accountId frequency :
      Statement Event Unit).Rewrites
        (EventMoves (some accountId) effects request) :=
  rewrites_forRows (fun _ => .bind
    (Session.rewrites_updateRow fun row _ =>
      ⟨rfl, .disabled row frequency asked⟩) fun _ =>
        Session.rewrites_pure) _

theorem rewrites_cancelQueued {serializationKey : String}
    (keyed : serializationKey = accountSerializationKey accountId ∨
      serializationKey = receiptSerializationKey accountId)
    (asked : .confirmAccountDeletion ∈ effects) :
    (cancelQueuedBySerializationKeyInTransaction environment
      serializationKey : Statement Event Unit).Rewrites
        (EventMoves (some accountId) effects request) := by
  refine rewrites_forRows (fun _ => .bind
    (Session.rewrites_updateRow fun row meets => ?_) fun _ =>
      Session.rewrites_pure) _
  simp only [Bool.and_eq_true, decide_eq_true_eq] at meets
  refine JobMove.cancelled row _ accountId meets.2 rfl ?_ asked
  rw [meets.1]
  exact keyed.imp (congrArg some) (congrArg some)

theorem rewrites_enqueueDelete {deletionRequestId : Uuid} {now : Timestamp}
    (asked : .confirmAccountDeletion ∈ effects) :
    (enqueueDeleteInTransaction environment accountId deletionRequestId now :
      Statement Event Unit).Rewrites
        (EventMoves (some accountId) effects request) := by
  refine .bind (rewrites_cancelQueued (.inl rfl) asked) fun _ => ?_
  refine .bind (rewrites_cancelQueued (.inr rfl) asked) fun _ => ?_
  exact .bind (Session.Rewrites.mapError
    (rewrites_enqueue fun version => .queued _ version _
      fun _ isJob => congrArg some isJob.eq_of_account))
    fun _ => Session.rewrites_pure

theorem rewrites_markDeleting
    (asked : .confirmAccountDeletion ∈ effects) :
    (updateAccount .invalidTransition accountId
      (fun row =>
        row.lifecycleState = .active || row.lifecycleState = .deleting)
      fun row => { row with lifecycleState := .deleting } :
        Statement Event Unit).Rewrites
          (EventMoves (some accountId) effects request) :=
  rewrites_updateAccount fun row alive =>
    ⟨rfl, .deleting row (by simpa using alive) asked⟩

theorem rewrites_requestDeletion {expenseCount : Nat}
    (asked : .confirmAccountDeletion ∈ effects) :
    (requestDeletion environment accountId expenseCount :
      Statement Event Unit).Rewrites
        (EventMoves (some accountId) effects request) :=
  Session.rewrites_upsertRow ⟨rfl, asked⟩ fun _ => ⟨rfl, asked⟩

theorem rewrites_confirmAccountDeletion {observedAt : Timestamp}
    (asked : .confirmAccountDeletion ∈ effects) :
    (confirmAccountDeletion environment context accountId observedAt :
      Statement Event Unit).Rewrites
        (EventMoves (some accountId) effects request) := by
  refine .bind (rewrites_markDeleting asked) fun _ => ?_
  refine .bind Session.rewrites_query fun expenseCount => ?_
  refine .bind (rewrites_requestDeletion asked) fun _ => ?_
  refine .bind rewrites_fetchOne fun requestId => ?_
  refine .bind (rewrites_enqueueDelete asked) fun _ => ?_
  exact .bind (Session.rewrites_updateRow fun row _ =>
    ⟨rfl, .abandoned row asked⟩) fun _ => Session.rewrites_pure

theorem rewrites_recordInsightSnapshot {observedAt : Timestamp}
    {periodKind : String}
    (asked : .recordInsightSnapshot periodKind ∈ effects) :
    (recordInsightSnapshot event environment policy accountId observedAt
      periodKind).Rewrites (EventMoves (some accountId) effects request) := by
  unfold recordInsightSnapshot
  split
  · exact Session.rewrites_fail
  rename_i kind _
  refine .bind rewrites_fetchOne fun locale => ?_
  refine .bind (Session.Rewrites.mapError (Session.Rewrites.mapEvent ?_))
    fun _ => Session.rewrites_pure
  unfold Insights.recordSnapshotInTransaction
  split
  · exact Session.rewrites_fail
  refine .bind Session.rewrites_query fun _ => ?_
  refine .bind Session.rewrites_query fun _ => ?_
  refine .bind Session.rewrites_query fun _ => ?_
  refine .bind (fun known => ⟨fun _ _ _ =>
    ⟨fun _ _ => ⟨rfl, periodKind, asked⟩, trivial⟩,
    fun _ missed => by simp at missed, trivial⟩) fun snapshot => ?_
  refine .bind ?_ fun _ => Session.rewrites_pure
  unfold Insights.requestNarrative
  split
  case isFalse => exact Session.rewrites_pure
  refine .bind Session.rewrites_query fun remaining => ?_
  split
  · exact .bind (Session.Rewrites.mapError
      (rewrites_enqueue fun version => .queued _ version _
        fun _ isJob => congrArg some isJob.eq_of_account))
      fun _ => Session.rewrites_pure
  · exact Session.rewrites_pure

/-- An effect moves rows as effects of the event may. -/
theorem applyEffect_rewrites {effect : IngressEffect}
    (asked : effect ∈ effects) :
    (applyEffect event environment context policy accountId inboundEventId
      request effect).Rewrites
        (EventMoves (some accountId) effects request) := by
  have transitions (submissionId : Uuid) (row : SubmissionRow)
      (next : ReceiptState) (failureErrorClass : Option String)
      (reviewExpiryHours : Option Int)
      (confirmedExpenseId duplicateOfSubmissionId : Option Uuid)
      (isOwner : row.accountId = accountId)
      (legal : canTransition row.state next = true) :
      EventMoves (some accountId) effects request (.submission submissionId)
        (some row) (some (row.transitioned environment.now next
          failureErrorClass reviewExpiryHours confirmedExpenseId
          duplicateOfSubmissionId)) :=
    .moved row _ next _ _ _ _ (congrArg some isOwner.symm) legal
  cases effect with
  | grantConsent consentVersion =>
      exact rewrites_silently (rewrites_updateAccount fun row pending =>
        ⟨rfl, .consented row _ _ (by simpa using pending) asked⟩)
  | createManualExpenseAwaitingConfirmation expenseId =>
      refine rewrites_silently (.bind (rewrites_insertManualExpense
        fun checked => ?_) fun _ => ?_)
      · exact .entered accountId _ _ _ _ _ _ _ rfl asked checked
      · exact rewrites_upsertPendingAction ⟨rfl, .begun _ ⟨_, asked, rfl⟩⟩
          fun row => ⟨rfl, .armed row _ ⟨_, asked, rfl⟩⟩
  | confirmExpense expenseId expectedVersion =>
      refine rewrites_silently (rewrites_settleExpense fun row meets => ?_)
      obtain ⟨rfl, rfl, awaiting⟩ := isAwaiting_iff.mp meets
      exact .settled row _ rfl awaiting (.inl ⟨asked, rfl⟩)
  | rejectExpense expenseId expectedVersion =>
      refine rewrites_silently (rewrites_settleExpense fun row meets => ?_)
      obtain ⟨rfl, rfl, awaiting⟩ := isAwaiting_iff.mp meets
      exact .settled row _ rfl awaiting (.inr ⟨asked, rfl⟩)
  | clearPendingAction expectedVersion =>
      refine rewrites_silently (rewrites_replacePending fun row same => ?_)
      subst same
      exact ⟨rfl, .cleared row asked⟩
  | acceptReceiptSubmission submissionId ingestJobId effectEventId =>
      rw [applyEffect]
      split
      · exact rewrites_acceptReceiptSubmission asked
      · exact Session.rewrites_fail
  | confirmReceipt submissionId expenseId expectedDraftVersion =>
      refine rewrites_silently (rewrites_onReceipt
        (rewrites_confirmInTransaction ⟨rfl, rfl⟩ (fun draft same => ?_)
          fun row next _ _ _ _ => transitions _ row next _ _ _ _))
      subst same
      exact .booked accountId submissionId draft rfl asked
  | rejectReceipt submissionId expectedDraftVersion =>
      exact rewrites_silently (rewrites_onReceipt
        (rewrites_rejectInTransaction fun row next _ _ _ _ =>
          transitions _ row next _ _ _ _))
  | editReceiptDraft submissionId expectedDraftVersion edit =>
      refine rewrites_silently (rewrites_onReceipt
        (rewrites_editDraftInTransaction ?_ fun _ _ => trivial))
      intro row next isOwner same sameId sameAccount newer
      subst same
      exact .edited row next edit (congrArg some isOwner.symm) asked sameId
        sameAccount newer
  | editManualExpense expenseId expectedVersion edit =>
      refine rewrites_silently (rewrites_editManualExpense ?_)
      intro row meets named category
      obtain ⟨rfl, rfl, awaiting⟩ := isAwaiting_iff.mp meets
      exact .edited row edit rfl awaiting asked named category
  | recategorizeLatest categoryKey =>
      refine rewrites_silently (rewrites_recategorizeLatest ?_ ?_)
      · intro id row isOwner confirmed category
        exact .recategorized row _ (congrArg some isOwner.symm) confirmed
          asked category
      · intro id row isOwner
        exact .recategorized row _ (congrArg some isOwner.symm) asked
  | setLocale locale =>
      exact rewrites_silently (rewrites_updateAccount fun row _ =>
        ⟨rfl, .translated row _⟩)
  | setTimezone iana =>
      rw [applyEffect]
      split
      · exact rewrites_silently (.bind (rewrites_updateAccount fun row _ =>
          ⟨rfl, .relocated row _⟩) fun _ =>
            rewrites_recomputeSchedules asked)
      · exact Session.rewrites_fail
  | upsertSummarySchedule frequency deliveryMinute =>
      exact rewrites_silently (rewrites_upsertSchedule asked)
  | disableSummarySchedule frequency =>
      exact rewrites_silently (rewrites_disableSchedule asked)
  | armAccountDeletion expiresAt =>
      exact rewrites_silently (rewrites_upsertPendingAction
        ⟨rfl, .begun _ ⟨_, asked, rfl⟩⟩
        fun row => ⟨rfl, .armed row _ ⟨_, asked, rfl⟩⟩)
  | confirmAccountDeletion =>
      exact rewrites_silently (rewrites_confirmAccountDeletion asked)
  | requestAccountExport =>
      exact rewrites_silently (.bind (Session.Rewrites.mapError
        (rewrites_enqueue fun version => .queued _ version _
          fun _ isJob => congrArg some isJob.eq_of_account))
        fun _ => Session.rewrites_pure)
  | recordInsightSnapshot periodKind =>
      exact rewrites_recordInsightSnapshot asked

end Effects

end Ingress

end ZaloBot
