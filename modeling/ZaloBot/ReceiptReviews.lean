import ZaloBot.ReceiptVerification

/-!
# Requests of users keep the discipline

Accepting, confirming, rejecting, editing and recategorizing.  A confirmation
either books the draft it names under the locks of the submission and the
draft, or finds the submission confirmed.
-/

namespace ZaloBot

open Sessions

/-- The expense that a confirmation reports. -/
def ConfirmOutcome.expenseId : ConfirmOutcome → Uuid
  | .confirmed expenseId | .alreadyConfirmed expenseId => expenseId

namespace Receipts

variable {refusal : ReceiptFailure → BotStore → Prop} {store : BotStore}
variable {own : Overlay BotRow} {now : Timestamp}

section Accepting

variable {submissionId accountId ingestJobId : Uuid}
variable {post : AcceptSubmissionOutcome → Overlay BotRow → BotStore → Prop}

theorem wp_finishAcceptInTransaction
    (refuses : ∀ error, refusal (.refused error) store)
    (progress : ReceiptProgress store (own.view store))
    (after : ∀ outcome last, ReceiptProgress store (last.view store) →
      post outcome last store) :
    (receiptRules refusal).wp (finishAcceptInTransaction now submissionId
      accountId ingestJobId) own store post := by
  have enqueues {own : Overlay BotRow}
      (progress : ReceiptProgress store (own.view store)) :
      (receiptRules refusal).wp (finishAcceptInTransaction.enqueueIngest now
        submissionId accountId ingestJobId) own store post := by
    unfold finishAcceptInTransaction.enqueueIngest
    rw [Discipline.wp_monad_bind]
    refine wp_leavesReceipts refuses (within_enqueueReceiptJob fun _ => rfl)
      fun outcome last same => ?_
    cases outcome with
    | enqueued => exact after _ last (progress.undisturbed same)
    | duplicate => exact after _ last (progress.undisturbed same)
  unfold finishAcceptInTransaction
  rw [Discipline.wp_monad_bind]
  refine wp_loadSubmissionForUpdate (refuses _) (refuses _)
    fun row present _ => ?_
  split
  · rename_i isPending
    rw [← isPending, Discipline.wp_monad_bind]
    refine wp_move refuses progress present (by simp) (by simp) (by simp)
      fun updated inOrder _ => ?_
    exact enqueues (inOrder _ (.refl _) (by simp))
  · split
    · exact after _ own progress
    · exact enqueues progress

theorem wp_acceptSubmissionInTransaction {request : AcceptSubmissionRequest}
    (refuses : ∀ error, refusal (.refused error) store)
    (progress : ReceiptProgress store (own.view store))
    (after : ∀ outcome last, ReceiptProgress store (last.view store) →
      post outcome last store) :
    (receiptRules refusal).wp (acceptSubmissionInTransaction now request) own
      store post := by
  unfold acceptSubmissionInTransaction
  rw [Discipline.wp_monad_bind]
  refine wp_onlyReads refuses (within_query _ _) fun active => ?_
  split
  · rw [Discipline.wp_monad_bind]
    refine wp_insertSubmission refuses (fun last same => ?_)
      fun last same free => ?_
    · have inOrder := progress.undisturbed same
      rw [if_neg (by simp), Discipline.wp_monad_bind]
      refine wp_loadExistingSubmission refuses (refuses _)
        fun id row _ _ => ?_
      dsimp only
      split
      · exact refuses _
      · split
        · exact wp_finishAcceptInTransaction refuses inOrder after
        · exact after _ last inOrder
    · rw [if_pos rfl]
      exact wp_finishAcceptInTransaction refuses
        ((progress.undisturbed same).accepted free) after
  · exact refuses _

theorem completes_acceptSubmission {request : AcceptSubmissionRequest} :
    Completes (acceptSubmission now request) := by
  intro store holds refusal post refuses after
  unfold acceptSubmission
  rw [Discipline.wp_monad_bind]
  refine wp_acceptSubmissionInTransaction
    (fun error => refuses error store (.refl holds)) (.refl holds)
    fun outcome last progress => ?_
  have concludes : Concludes last store
      (do commit (.accept request outcome); pure outcome) :=
    concludes_commit_bind progress trivial (completes_pure _)
  exact concludes refusal post refuses after

end Accepting

section Confirming

variable {request : ConfirmRequest}

/-- The submission names the expense. -/
def NamesExpense (store : BotStore) (submissionId expenseId : Uuid) : Prop :=
  ∃ row, store (.submission submissionId) = some row ∧
    row.confirmedExpenseId = some expenseId

theorem NamesExpense.advances {before after : BotStore}
    {submissionId expenseId : Uuid}
    (names : NamesExpense before submissionId expenseId)
    (advances : ReceiptAdvances before after) :
    NamesExpense after submissionId expenseId := by
  obtain ⟨row, present, booked⟩ := names
  obtain ⟨next, found, _, kept⟩ :=
    advances.submissions submissionId row present
  exact ⟨next, found, kept expenseId booked⟩

/-- Booking a draft of a submission under review. -/
theorem wp_bookDraft {post : ConfirmOutcome → Overlay BotRow → BotStore → Prop}
    {row : SubmissionRow} {draft : DraftRow}
    (holds : ReceiptInvariant store)
    (refuses : ∀ error, refusal (.refused error) store)
    (present : store (.submission request.submissionId) = some row)
    (isReview : row.state = .reviewRequired)
    (presentDraft : store (.draft request.submissionId) = some draft)
    (version : draft.version = request.expectedDraftVersion)
    (booked : ∀ expenseId last, ReceiptProgress store (last.view store) →
      Books request expenseId store (last.view store) →
      NamesExpense (last.view store) request.submissionId expenseId →
        post (.confirmed expenseId) last store) :
    (receiptRules refusal).wp (do
      insertConfirmedExpense request.expenseId request.accountId
        request.submissionId draft
      let expenseId ← lookupConfirmedExpenseId request.submissionId
      transitionState now request.submissionId request.accountId
        .reviewRequired .confirmed none none (some expenseId) none
      pure (.confirmed expenseId)) Overlay.none store post := by
  have legal := holds.legal request.submissionId row present
  have notMember : .confirmed ∉ row.history := by
    intro member
    have state := legal.state_of_terminal member rfl
    simp [isReview] at state
  rw [Discipline.wp_monad_bind]
  refine wp_insertConfirmedExpense refuses ?_ fun unbooked fresh => ?_
  · intro older existing earlier entry
    obtain ⟨⟨olderRow, olderPresent, member⟩, _⟩ :=
      earlier.invariant.indexed _ _ entry
    obtain ⟨next, found, grown, _⟩ :=
      earlier.advances.submissions _ _ olderPresent
    rw [present] at found
    cases found
    exact absurd (grown.mem member) notMember
  · rw [Discipline.wp_monad_bind]
    refine wp_lookupConfirmedExpenseId request.expenseId refuses
      (fun older => ?_) ?_
    · rw [Overlay.set_view_other (by simp), Overlay.set_view_self]
    · rw [Discipline.wp_monad_bind]
      refine wp_transitionState refuses fun found presentFound _ moves => ?_
      rw [Overlay.set_view_other (by simp), Overlay.set_view_other (by simp),
        Overlay.none_view, present] at presentFound
      cases presentFound
      have moves : canTransition row.state .confirmed = true := by
        rw [isReview]
        rfl
      have checks := @SubmissionRow.satisfiesChecks_transitioned
        request.submissionId row now .confirmed none none
        (some request.expenseId) none legal.checks moves (by simp) (by simp)
        (by simp)
      refine ⟨checks, booked request.expenseId _ ?_ ?_ ?_⟩
      · exact (ReceiptProgress.refl holds).booking present unbooked fresh rfl
          (legal.transitioned moves checks) rfl (legal.unnamed isReview) rfl
      · refine ⟨⟨row, present, isReview⟩, ⟨draft, _, presentDraft, version,
          ?_, confirmedExpense_recordsDraft _ _ draft⟩,
          _, Overlay.set_view_self _ _ _ _, rfl, List.mem_cons_self⟩
        rw [Overlay.set_view_other (by simp), Overlay.set_view_self]
      · exact ⟨_, Overlay.set_view_self _ _ _ _, rfl⟩

theorem wp_confirmInTransaction
    {post : ConfirmOutcome → Overlay BotRow → BotStore → Prop}
    (holds : ReceiptInvariant store)
    (refuses : ∀ error, refusal (.refused error) store)
    (repeated : ∀ row expenseId,
      store (.submission request.submissionId) = some row →
      row.state = .confirmed → row.confirmedExpenseId = some expenseId →
        post (.alreadyConfirmed expenseId) Overlay.none store)
    (booked : ∀ expenseId last, ReceiptProgress store (last.view store) →
      Books request expenseId store (last.view store) →
      NamesExpense (last.view store) request.submissionId expenseId →
        post (.confirmed expenseId) last store) :
    (receiptRules refusal).wp (confirmInTransaction now request) Overlay.none
      store post := by
  unfold confirmInTransaction
  rw [Discipline.wp_monad_bind]
  refine wp_loadSubmissionForUpdate (refuses _) (refuses _)
    fun row present _ => ?_
  have legal := holds.legal request.submissionId row present
  split
  · rename_i isConfirmed
    have member : .confirmed ∈ row.history := by
      rw [← isConfirmed]
      exact List.mem_of_mem_head? legal.current
    obtain ⟨expenseId, named, _⟩ :=
      holds.confirmed request.submissionId row present member
    simp only [named]
    exact repeated row expenseId present isConfirmed named
  · split
    · exact refuses _
    · rename_i inReview
      have isReview : row.state = .reviewRequired := by simpa using inReview
      rw [Discipline.wp_monad_bind]
      refine wp_loadDraftForUpdate refuses fun draft presentDraft => ?_
      split
      · exact refuses _
      · rename_i sameVersion
        have version : draft.version = request.expectedDraftVersion := by
          simpa using sameVersion
        exact wp_bookDraft holds refuses present isReview presentDraft
          version booked

theorem wp_confirm
    {post : ConfirmOutcome → Overlay BotRow → BotStore → Prop}
    (holds : ReceiptInvariant store)
    (refuses : ∀ error later, ReceiptProgress store later →
      refusal (.refused error) later)
    (after : ∀ outcome later, ReceiptProgress store later →
      NamesExpense later request.submissionId outcome.expenseId →
        post outcome Overlay.none later) :
    (receiptRules refusal).wp (confirm now request) Overlay.none store
      post := by
  have concludes {outcome : ConfirmOutcome} {last : Overlay BotRow}
      (progress : ReceiptProgress store (last.view store))
      (facts : receiptFacts store (.confirm request outcome)
        (last.view store))
      (names : NamesExpense (last.view store) request.submissionId
        outcome.expenseId) :
      (receiptRules refusal).wp (do
        commit (.confirm request outcome)
        pure outcome) last store post := by
    refine ⟨fun _ => ⟨⟨progress, facts⟩, fun later isLater => ?_⟩,
      fun later isLater => refuses _ later (later_receiptRules.mp isLater)⟩
    have further := later_receiptRules.mp isLater
    exact ⟨after outcome later (progress.trans further)
      (names.advances further.advances), refuses _ later
      (progress.trans further)⟩
  unfold confirm
  rw [Discipline.wp_monad_bind]
  refine wp_confirmInTransaction holds
    (fun error => refuses error store (.refl holds)) ?_ ?_
  · intro row expenseId present isConfirmed named
    exact concludes (.refl holds)
      ⟨rfl, row, present, isConfirmed, named⟩ ⟨row, present, named⟩
  · intro expenseId last progress books names
    exact concludes progress books names

end Confirming

section Reviewing

theorem completes_reject {request : RejectRequest} :
    Completes (reject now request) := by
  intro store holds refusal post refuses after
  have refusesNow (error : StoreError) : refusal (.refused error) store :=
    refuses error store (.refl holds)
  unfold reject rejectInTransaction
  rw [Discipline.wp_monad_bind, Discipline.wp_monad_bind]
  refine wp_loadSubmissionForUpdate (refusesNow _) (refusesNow _)
    fun row present _ => ?_
  split
  · have unchanged : Concludes Overlay.none store (commit (.reject request)) :=
      concludes_commit (.refl holds) (Or.inl rfl)
    exact unchanged refusal post refuses after
  · split
    · exact refusesNow _
    · rename_i inReview
      have isReview : row.state = .reviewRequired := by simpa using inReview
      rw [Discipline.wp_monad_bind]
      refine wp_loadDraftForUpdate refusesNow fun draft presentDraft => ?_
      split
      · exact refusesNow _
      · rename_i sameVersion
        rw [← isReview]
        refine wp_move refusesNow (.refl holds) present (by simp) (by simp)
          (by simp) fun updated inOrder member => ?_
        refine concludes_commit (inOrder _ (.refl _) (by simp)) ?_ refusal
          post refuses after
        refine Or.inr ⟨⟨row, draft, present, isReview, presentDraft,
          by simpa using sameVersion⟩, Or.inl ?_⟩
        exact ⟨updated, Overlay.set_view_self _ _ _ _, Or.inr member⟩

theorem completes_editDraft {toRfc3339 : Timestamp → String}
    {request : EditDraftRequest} :
    Completes (editDraft toRfc3339 request) := by
  intro store holds refusal post refuses after
  have refusesNow (error : StoreError) : refusal (.refused error) store :=
    refuses error store (.refl holds)
  unfold editDraft editDraftInTransaction
  rw [Discipline.wp_monad_bind, Discipline.wp_monad_bind]
  refine wp_loadSubmissionForUpdate (refusesNow _) (refusesNow _)
    fun row present _ => ?_
  split
  · exact refusesNow _
  · rename_i inReview
    have isReview : row.state = .reviewRequired := by simpa using inReview
    rw [Discipline.wp_monad_bind]
    refine wp_loadDraftForUpdate refusesNow fun draft presentDraft => ?_
    split
    · exact refusesNow _
    · rename_i sameVersion
      have version : draft.version = request.expectedVersion := by
        simpa using sameVersion
      rw [Discipline.wp_monad_bind]
      refine wp_leavesReceipts refusesNow (within_editedDraft rfl)
        fun next last same => ?_
      rw [Discipline.wp_monad_bind]
      refine wp_updateDraft refusesNow
        fun final before edited further presentBefore newer => ?_
      have unchanged := same.trans further
      have isDraft : draft = before := by
        rw [same.drafts, presentDraft] at presentBefore
        simpa using presentBefore
      subst isDraft
      have progress : ReceiptProgress store ((final.set
          (.draft request.submissionId) (some edited)).view store) := by
        refine (ReceiptProgress.undisturbed (.refl holds) unchanged).draft
          fun current found => ?_
        rw [unchanged.drafts, presentDraft] at found
        cases found
        omega
      have concludes : Concludes (final.set (.draft request.submissionId)
          (some edited)) store (do
            commit (.edit request)
            pure { next with version := next.version + 1 }) := by
        refine concludes_commit_bind progress ⟨?_, Or.inr ?_⟩
          (completes_pure _)
        · exact ⟨row, draft, present, isReview, presentDraft, version⟩
        · exact ⟨edited, Overlay.set_view_self _ _ _ _, by omega⟩
      exact concludes refusal post refuses after

/-- The transaction of a `RecategorizeLatest` effect. -/
def recategorizeLatest (latest : Option Uuid) (accountId : Uuid)
    (categoryKey : String) : Operation Unit := do
  (Expenses.recategorizeLatestInTransaction latest accountId
    categoryKey).mapError fun error => .refused (.conflict error.message)
  commit .recategorizeLatest

theorem completes_recategorizeLatest {latest : Option Uuid}
    {accountId : Uuid} {categoryKey : String} :
    Completes (recategorizeLatest latest accountId categoryKey) := by
  intro store holds refusal post refuses after
  have refusesNow (error : IngressEffectError) :
      refusal (.refused (.conflict error.message)) store :=
    refuses _ store (.refl holds)
  have commits {own : Overlay BotRow}
      (progress : ReceiptProgress store (own.view store)) :
      (receiptRules refusal).wp (commit .recategorizeLatest) own store
        post := by
    have concludes : Concludes own store (commit .recategorizeLatest) :=
      concludes_commit progress trivial
    exact concludes refusal post refuses after
  unfold recategorizeLatest Expenses.recategorizeLatestInTransaction
  rw [Discipline.wp_monad_bind, Discipline.wp_mapError,
    Discipline.wp_monad_bind]
  refine Discipline.wp_query (refusesNow _) fun _ _ => ?_
  split
  · cases latest with
    | none => exact refusesNow _
    | some expenseId =>
        dsimp only
        rw [Discipline.wp_monad_bind]
        refine Discipline.wp_selectForUpdate (refusesNow _) (refusesNow _)
          fun expense present _ => ?_
        dsimp only
        rw [Discipline.wp_monad_bind]
        refine Discipline.wp_updateRow (refusesNow _) (refusesNow _)
          fun before found _ => ?_
        have progress : ReceiptProgress store ((Overlay.none.set
            (.expense expenseId) (some { before with
              categoryKey := categoryKey })).view store) :=
          (ReceiptProgress.refl holds).expense found rfl
        rw [if_pos rfl]
        cases expense.receiptSubmissionId with
        | none => exact commits progress
        | some submissionId =>
            dsimp only
            rw [Discipline.wp_monad_bind]
            refine Discipline.wp_updateRow (refusesNow _) (commits progress)
              fun draft foundDraft _ => ?_
            refine commits (progress.draft fun current foundCurrent => ?_)
            rw [foundDraft] at foundCurrent
            cases foundCurrent
            exact Int.le_refl _
  · exact refusesNow _

end Reviewing

end Receipts

end ZaloBot
