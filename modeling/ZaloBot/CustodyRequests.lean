import ZaloBot.CustodyOperations
import ZaloBot.ReceiptReviews

/-!
# Requests and maintenance that keep custody

Accepting, confirming, rejecting and editing, the expiry of reviews and the
deletion of originals.  A submission is accepted together with its ingestion
job, and nothing that happens after the ingestion touches jobs.
-/

namespace ZaloBot

open Sessions

namespace Receipts

variable {permitted : ReceiptEvent → Prop} {noCancel : Prop}
variable {own : Overlay BotRow} {store : BotStore} {now : Timestamp}
variable {submissionId accountId : Uuid}

section Acceptance

theorem wp_insertSubmissionCustody {inboundEventId : Option Uuid}
    {post : Bool → Overlay BotRow → BotStore → Prop}
    (taken : ∀ last, LeavesCustody own last → post false last store)
    (inserted : ∀ last : Overlay BotRow, LeavesCustody own last →
      own.view store (.submission submissionId) = none →
      post true (last.set (.submission submissionId)
        (some (.new accountId inboundEventId))) store) :
    (custodyRules ReceiptEvent permitted noCancel).wp
      (insertSubmission submissionId accountId inboundEventId) own store
      post :=
  wp_insertSubmissionRow (fun _ => trivial)
    (fun last _ outside => taken last fun key inCustody => outside key
      fun eventId same => by
        subst same
        exact inCustody)
    fun free _ => inserted _ (fun key inCustody => indexSubmission_other
      fun eventId _ same => by
        subst same
        exact inCustody) free

/-- A new submission is queued together with its job. -/
theorem custody_finishAccept {inboundEventId : Option Uuid}
    {ingestJobId : Uuid}
    {post : AcceptSubmissionOutcome → Overlay BotRow → BotStore → Prop}
    (holds : Custody noCancel store)
    (leaves : LeavesCustody Overlay.none own)
    (absent : store (.submission submissionId) = none)
    (active : AccountActive store accountId)
    (accepted : ∀ last outcome, Tends noCancel store last →
      post outcome last store) :
    (custodyRules ReceiptEvent permitted noCancel).wp
      (finishAcceptInTransaction now submissionId accountId ingestJobId)
      (own.set (.submission submissionId)
        (some (.new accountId inboundEventId))) store post := by
  unfold finishAcceptInTransaction
  rw [Discipline.wp_monad_bind]
  refine wp_loadSubmissionForUpdate trivial trivial fun row present _ => ?_
  rw [Overlay.set_view_self] at present
  cases present
  have isPending : (SubmissionRow.new accountId inboundEventId).state =
      .pending := rfl
  rw [if_pos isPending, Discipline.wp_monad_bind]
  refine wp_transitionChecked fun row present _ _ legal checks => ?_
  rw [Overlay.set_view_self] at present
  cases present
  unfold finishAcceptInTransaction.enqueueIngest
  rw [Discipline.wp_monad_bind]
  refine wp_enqueueCustody (if_pos rfl) ?_ ?_
  · intro older existing olderHolds moves found
    rw [Overlay.set_view_other (by simp), Overlay.set_view_other (by simp),
      leaves.view _ (inCustody_ingest _), Overlay.none_view] at found
    obtain ⟨row, isRow⟩ := Option.isSome_iff_exists.mp
      (olderHolds.ingestJobs submissionId existing found).2
    obtain ⟨next, isNext, _⟩ := moves.submissions submissionId row isRow
    rw [absent] at isNext
    contradiction
  · intro last job presentJob jobType isQueued same
    refine accepted last _ ?_
    have written : last.view store (.submission submissionId) =
        some ((SubmissionRow.new accountId inboundEventId).transitioned now
          .queued none none none none) := by
      rw [Overlay.view, same _ (by simp), ← Overlay.view,
        Overlay.set_view_self]
    refine holds.accepted absent
      ((SubmissionRow.legal_new _ _ _).transitioned legal checks) active rfl
      rfl rfl jobType ⟨by simp [isQueued], by simp [isQueued]⟩ written
      presentJob ?_
    intro key inCustody untouched
    simp only [acceptsRow, not_or] at untouched
    rw [Overlay.view, same key untouched.2, ← Overlay.view,
      Overlay.set_view_other untouched.1, Overlay.set_view_other untouched.1,
      leaves.view _ inCustody, Overlay.none_view]

theorem custody_acceptSubmission {request : AcceptSubmissionRequest}
    (holds : Custody noCancel store) :
    (custodyRules ReceiptEvent permitted noCancel).wp
      (acceptSubmission now request) Overlay.none store
      fun _ last _ => last = Overlay.none := by
  have commits (outcome : AcceptSubmissionOutcome) (last : Overlay BotRow)
      (tends : Tends noCancel store last) :
      (custodyRules ReceiptEvent permitted noCancel).wp
        (commit (.accept request outcome) >>= fun _ => pure outcome) last
        store fun _ last _ => last = Overlay.none := by
    rw [Discipline.wp_monad_bind]
    exact wp_commitTended tends fun _ _ _ => rfl
  unfold acceptSubmission acceptSubmissionInTransaction
  rw [Discipline.wp_monad_bind, Discipline.wp_monad_bind]
  refine Discipline.wp_query trivial fun older earlier => ?_
  split
  case isFalse => trivial
  rename_i isActive
  have active : AccountActive store request.accountId := by
    obtain ⟨account, isAccount, state⟩ :=
      (Option.any_eq_true _ _).mp isActive
    refine ⟨account, ?_, by simpa using state⟩
    rw [earlier.advances.accounts]
    exact isAccount
  rw [Discipline.wp_monad_bind]
  refine wp_insertSubmissionCustody (fun last leaves => ?_)
    fun last leaves absent => ?_
  · rw [if_neg (by simp), Discipline.wp_monad_bind]
    refine wp_loadExistingSubmission (fun _ => trivial) trivial ?_
    intro id row present _
    rw [leaves.view (.submission id) trivial] at present
    dsimp only
    split
    · trivial
    split
    · rename_i isPending
      exact absurd isPending (holds.submissions id row present).accepted
    · exact commits _ _ (tends_of_leaves holds leaves)
  · rw [if_pos rfl]
    exact custody_finishAccept holds leaves absent active
      fun last outcome tends => commits outcome last tends

end Acceptance

section Reviewing

theorem within_lookupConfirmedExpenseId {Event : Type}
    {allowed : BotKey → Prop} :
    (lookupConfirmedExpenseId submissionId :
      Statement Event Uuid).WritesWithin allowed fun _ => True := by
  refine .bind (Session.writesWithin_query trivial) fun expenseId => ?_
  cases expenseId <;> trivial

theorem custody_confirm {request : ConfirmRequest}
    (holds : Custody noCancel store) :
    (custodyRules ReceiptEvent permitted noCancel).wp (confirm now request)
      Overlay.none store fun _ last _ => last = Overlay.none := by
  unfold confirm confirmInTransaction
  rw [Discipline.wp_monad_bind, Discipline.wp_monad_bind]
  refine wp_loadSubmissionForUpdate trivial trivial fun row present _ => ?_
  split
  · cases row.confirmedExpenseId with
    | none => trivial
    | some expenseId =>
        dsimp only
        rw [Discipline.wp_pure, Discipline.wp_monad_bind]
        exact wp_commitTended (.refl holds) fun _ _ _ => rfl
  split
  · trivial
  rw [Discipline.wp_monad_bind]
  refine wp_outsideCustody within_loadDraftForUpdate
    fun draft last leaves => ?_
  have tends := tends_of_leaves holds leaves
  split
  · trivial
  rw [Discipline.wp_monad_bind]
  refine wp_outsideCustody (within_insertConfirmedExpense not_false not_false)
    fun _ last leaves => ?_
  have tends := tends.leaves leaves
  rw [Discipline.wp_monad_bind]
  refine wp_outsideCustody within_lookupConfirmedExpenseId
    fun expenseId last leaves => ?_
  rw [Discipline.wp_monad_bind]
  refine wp_transitionTended (tends.leaves leaves) ?_ ?_ ?_ ?_ ?_
  · rintro ⟨⟩
  · rintro ⟨⟩
  · rintro ⟨⟩
  · rintro _ ⟨⟩
  intro _ last tends _ _ _ _
  rw [Discipline.wp_pure, Discipline.wp_monad_bind]
  exact wp_commitTended tends fun _ _ _ => rfl

theorem custody_reject {request : RejectRequest}
    (holds : Custody noCancel store) :
    (custodyRules ReceiptEvent permitted noCancel).wp (reject now request)
      Overlay.none store fun _ last _ => last = Overlay.none := by
  unfold reject rejectInTransaction
  rw [Discipline.wp_monad_bind, Discipline.wp_monad_bind]
  refine wp_loadSubmissionForUpdate trivial trivial fun row present _ => ?_
  split
  · exact wp_commitTended (.refl holds) fun _ _ _ => rfl
  split
  · trivial
  rw [Discipline.wp_monad_bind]
  refine wp_outsideCustody within_loadDraftForUpdate
    fun draft last leaves => ?_
  split
  · trivial
  refine wp_transitionTended (tends_of_leaves holds leaves) ?_ ?_ ?_ ?_ ?_
  · rintro ⟨⟩
  · rintro ⟨⟩
  · rintro ⟨⟩
  · rintro _ ⟨⟩
  exact fun _ last tends _ _ _ _ => wp_commitTended tends fun _ _ _ => rfl

theorem custody_editDraft {toRfc3339 : Timestamp → String}
    {request : EditDraftRequest} (holds : Custody noCancel store) :
    (custodyRules ReceiptEvent permitted noCancel).wp
      (editDraft toRfc3339 request) Overlay.none store
      fun _ last _ => last = Overlay.none := by
  unfold editDraft editDraftInTransaction
  rw [Discipline.wp_monad_bind, Discipline.wp_monad_bind]
  refine wp_loadSubmissionForUpdate trivial trivial fun row present _ => ?_
  split
  · trivial
  rw [Discipline.wp_monad_bind]
  refine wp_outsideCustody within_loadDraftForUpdate
    fun draft last leaves => ?_
  have tends := tends_of_leaves holds leaves
  split
  · trivial
  rw [Discipline.wp_monad_bind]
  refine wp_outsideCustody (within_editedDraft not_false)
    fun next last leaves => ?_
  have tends := tends.leaves leaves
  rw [Discipline.wp_monad_bind]
  refine wp_outsideCustody (within_updateDraft not_false)
    fun _ last leaves => ?_
  rw [Discipline.wp_pure, Discipline.wp_monad_bind]
  exact wp_commitTended (tends.leaves leaves) fun _ _ _ => rfl

theorem custody_expireCandidates {candidates : List (Uuid × Uuid)}
    {post : Nat → Overlay BotRow → BotStore → Prop}
    (tends : Tends noCancel store own)
    (expired : ∀ count last, Tends noCancel store last →
      post count last store) :
    (custodyRules ReceiptEvent permitted noCancel).wp
      (expireCandidates now candidates) own store post := by
  induction candidates generalizing own post with
  | nil => exact expired 0 own tends
  | cons candidate candidates ih =>
      have others (found : Bool) (last : Overlay BotRow)
          (tends : Tends noCancel store last) :
          (custodyRules ReceiptEvent permitted noCancel).wp (do
            let others ← expireCandidates now candidates
            pure (if found then others + 1 else others)) last store post := by
        rw [Discipline.wp_monad_bind]
        exact ih tends fun count last tends => expired _ last tends
      unfold expireCandidates expireReview
      rw [Discipline.wp_monad_bind, Discipline.wp_monad_bind]
      refine Discipline.wp_selectForUpdate trivial (others false own tends) ?_
      intro row _ _
      dsimp only
      rw [Discipline.wp_monad_bind]
      refine wp_loadSubmissionForUpdate trivial trivial fun row _ _ => ?_
      split
      · exact others false own tends
      · rw [Discipline.wp_monad_bind]
        refine wp_transitionTended tends ?_ ?_ ?_ ?_ ?_
        · rintro ⟨⟩
        · rintro ⟨⟩
        · rintro ⟨⟩
        · rintro _ ⟨⟩
        exact fun _ last tends _ _ _ _ => others true last tends

theorem custody_expireReviews {batchLimit : Int}
    {candidates : List (Uuid × Uuid)} (holds : Custody noCancel store) :
    (custodyRules ReceiptEvent permitted noCancel).wp
      (expireReviews now batchLimit candidates) Overlay.none store
      fun _ last _ => last = Overlay.none := by
  unfold expireReviews
  split
  · trivial
  rw [Discipline.wp_monad_bind]
  refine custody_expireCandidates (.refl holds) fun count last tends => ?_
  rw [Discipline.wp_monad_bind]
  exact wp_commitTended tends fun _ _ _ => rfl

theorem within_recategorizeLatest {Event : Type} {allowed : BotKey → Prop}
    {latest : Option Uuid} {categoryKey : String}
    (expenses : ∀ id, allowed (.expense id))
    (drafts : ∀ id, allowed (.draft id)) :
    (Expenses.recategorizeLatestInTransaction latest accountId categoryKey :
      Expenses.Statement Event Unit).WritesWithin allowed fun _ => True := by
  refine .bind (Session.writesWithin_query trivial) fun known => ?_
  split
  case isFalse => trivial
  cases latest with
  | none => trivial
  | some expenseId =>
      refine .bind (Session.writesWithin_selectForUpdate trivial)
        fun selected => ?_
      cases selected with
      | none => trivial
      | some expense =>
          refine .bind (Session.writesWithin_updateRow trivial (expenses _))
            fun updated => ?_
          cases updated with
          | false => trivial
          | true =>
              rw [if_pos rfl]
              cases expense.receiptSubmissionId with
              | none => trivial
              | some submissionId =>
                  exact .bind (Session.writesWithin_updateRow trivial
                    (drafts _)) fun _ => trivial

theorem custody_recategorizeLatest {latest : Option Uuid}
    {categoryKey : String} (holds : Custody noCancel store) :
    (custodyRules ReceiptEvent permitted noCancel).wp
      (recategorizeLatest latest accountId categoryKey) Overlay.none store
      fun _ last _ => last = Overlay.none := by
  unfold recategorizeLatest
  rw [Discipline.wp_monad_bind]
  refine wp_outsideCustody (Session.writesWithin_mapError
    (fun _ _ => trivial) (within_recategorizeLatest (fun _ => not_false)
      fun _ => not_false) : Session.WritesWithin _ (fun _ => True) _)
    fun _ last leaves => ?_
  exact wp_commitTended (tends_of_leaves holds leaves) fun _ _ _ => rfl

end Reviewing

section Originals

theorem custody_deleteOriginal {objectStoreError : StoreError}
    (holds : Custody noCancel store) :
    (custodyRules ReceiptEvent permitted noCancel).wp (deleteOriginal now
      objectStoreError accountId submissionId) Overlay.none store
      fun _ last _ => last = Overlay.none := by
  have finishes (last : Overlay BotRow) (tends : Tends noCancel store last) :
      (custodyRules ReceiptEvent permitted noCancel).wp
        (deleteOriginal.finish now submissionId) last store
        fun _ last _ => last = Overlay.none := by
    unfold deleteOriginal.finish
    rw [Discipline.wp_monad_bind]
    exact wp_markDeletedTended tends fun last tends =>
      wp_commitTended tends fun _ _ _ => rfl
  unfold deleteOriginal
  rw [Discipline.wp_monad_bind]
  refine Discipline.wp_query trivial fun older _ => ?_
  split
  · trivial
  split
  · rfl
  rw [Discipline.wp_monad_bind]
  refine wp_emitCustody not_false ?_ trivial
  rw [Discipline.wp_pure, Discipline.wp_monad_bind]
  refine wp_loadSubmissionForUpdate trivial trivial fun row _ _ => ?_
  split
  · exact finishes Overlay.none (.refl holds)
  split
  · rw [Discipline.wp_monad_bind]
    refine wp_transitionTended (.refl holds) ?_ ?_ ?_ ?_ ?_
    · rintro ⟨⟩
    · rintro ⟨⟩
    · rintro ⟨⟩
    · rintro _ ⟨⟩
    exact fun _ last tends _ _ _ _ => finishes last tends
  · trivial

theorem within_sweepCandidates {allowed : BotKey → Prop}
    {candidates : List Uuid} :
    Within allowed (sweepCandidates now candidates) := by
  induction candidates with
  | nil => trivial
  | cons candidate candidates ih =>
      refine .bind (within_query _ _) fun finished => ?_
      refine .bind (Session.writesWithin_selectForUpdate ⟨_, rfl⟩)
        fun asset => ?_
      refine .bind ih fun others => ?_
      cases asset <;> trivial

theorem custody_deleteObjects {objectStoreError : StoreError}
    {objectKeys : List String}
    {post : Unit → Overlay BotRow → BotStore → Prop}
    (deleted : post () own store) :
    (custodyRules ReceiptEvent permitted noCancel).wp
      (deleteObjects objectStoreError objectKeys) own store post := by
  induction objectKeys with
  | nil => exact deleted
  | cons objectKey objectKeys ih =>
      unfold deleteObjects
      rw [Discipline.wp_monad_bind]
      exact wp_emitCustody not_false ih trivial

theorem custody_markAssetsDeleted {submissionIds : List Uuid}
    {post : Unit → Overlay BotRow → BotStore → Prop}
    (tends : Tends noCancel store own)
    (marked : ∀ last, Tends noCancel store last → post () last store) :
    (custodyRules ReceiptEvent permitted noCancel).wp
      (markAssetsDeleted now submissionIds) own store post := by
  induction submissionIds generalizing own with
  | nil => exact marked own tends
  | cons submissionId submissionIds ih =>
      unfold markAssetsDeleted
      rw [Discipline.wp_monad_bind]
      exact wp_markDeletedTended tends fun last tends => ih tends

theorem custody_retentionSweep {objectStoreError : StoreError}
    {batchLimit : Int} {candidates : List Uuid}
    (holds : Custody noCancel store) :
    (custodyRules ReceiptEvent permitted noCancel).wp (retentionSweep now
      objectStoreError batchLimit candidates) Overlay.none store
      fun _ last _ => last = Overlay.none := by
  unfold retentionSweep
  split
  · trivial
  rw [Discipline.wp_monad_bind]
  refine wp_outsideCustody within_sweepCandidates fun rows last leaves => ?_
  rw [Discipline.wp_monad_bind]
  refine custody_deleteObjects ?_
  rw [Discipline.wp_monad_bind]
  refine custody_markAssetsDeleted (tends_of_leaves holds leaves)
    fun last tends => ?_
  rw [Discipline.wp_monad_bind]
  exact wp_commitTended tends fun _ _ _ => rfl

end Originals

end Receipts

end ZaloBot
