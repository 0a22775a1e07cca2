import ZaloBot.ReceiptCustody
import ZaloBot.SessionTriples

/-!
# The discipline of custody

Every commit keeps the receipts in custody.  A transaction tends them as long
as the rows it sees are in custody and ahead of the committed ones; the rules
say what statements on submissions, assets and jobs do to such a transaction.
Calls may fail in any way.
-/

namespace ZaloBot

open Sessions

/-- Publications keep custody.  Some events may be excluded. -/
def custodyRules (Event : Type) (permitted : Event → Prop)
    (noCancel : Prop) : Discipline BotRow Event ReceiptFailure where
  invariant := Custody noCancel
  advances := CustodyAdvances
  permitted _ event := permitted event
  guarantee before _ after := CustodyProgress noCancel before after
  refusal _ _ := True
  advances_refl := .refl
  advances_trans := .trans
  keeps _ guaranteed := ⟨guaranteed.custody, guaranteed.advances⟩

section Overlays

variable {noCancel : Prop} {own last : Overlay BotRow} {store : BotStore}

/-- Writes of a transaction that leave the rows in custody alone. -/
def LeavesCustody (own last : Overlay BotRow) : Prop :=
  ∀ key : BotKey, key.InCustody → last key = own key

theorem LeavesCustody.view (leaves : LeavesCustody own last) (key : BotKey)
    (inCustody : key.InCustody) :
    last.view store key = own.view store key := by
  rw [Overlay.view, Overlay.view, leaves key inCustody]

/-- The rows that a transaction sees are in custody. -/
abbrev Tends (noCancel : Prop) (store : BotStore) (own : Overlay BotRow) :
    Prop :=
  CustodyMoves noCancel store (own.view store)

theorem Tends.leaves (tends : Tends noCancel store own)
    (leaves : LeavesCustody own last) : Tends noCancel store last :=
  CustodyMoves.trans tends (tends.custody.undisturbed
    fun _ inCustody _ => leaves.view _ inCustody)

theorem tends_of_leaves (holds : Custody noCancel store)
    (leaves : LeavesCustody Overlay.none last) : Tends noCancel store last := by
  have begins : Tends noCancel store Overlay.none := .refl holds
  exact begins.leaves leaves

theorem sameBut_set (key : BotKey) (row : Option (BotRow key)) :
    SameBut (· = key) (own.view store) ((own.set key row).view store) :=
  fun _ _ different => Overlay.set_view_other different

end Overlays

namespace Receipts

variable {Event Value : Type} {permitted : Event → Prop} {noCancel : Prop}
variable {own : Overlay BotRow} {store : BotStore}
variable {submissionId accountId : Uuid}

/-- After a part of a transaction that writes no row in custody. -/
theorem wp_outsideCustody {part : Statement Event Value}
    {fails : ReceiptFailure → Prop}
    {post : Value → Overlay BotRow → BotStore → Prop}
    (within : part.WritesWithin (fun key => ¬ key.InCustody) fails)
    (after : ∀ value last, LeavesCustody own last → post value last store) :
    (custodyRules Event permitted noCancel).wp part own store post := by
  refine Discipline.wp_mono ?_ (Discipline.wp_frame (fun _ _ => trivial)
    within)
  rintro value last final ⟨rfl, kept⟩
  exact after value last fun key inCustody => kept key (not_not.mpr inCustody)

/-- The commit of a transaction that keeps custody if it is permitted. -/
theorem wp_commitPermitted {error : ReceiptFailure} {event : Event}
    {post : Unit → Overlay BotRow → BotStore → Prop}
    (keeps : permitted event →
      CustodyProgress noCancel store (own.view store))
    (after : ∀ later, Custody noCancel later →
      CustodyAdvances (own.view store) later → post () Overlay.none later) :
    (custodyRules Event permitted noCancel).wp
      (Session.commitTransaction error event) own store post :=
  Discipline.wp_commitTransaction (fun _ => trivial) fun isPermitted =>
    ⟨keeps isPermitted, fun later isLater =>
      after later isLater.invariant isLater.advances⟩

/-- The commit of a transaction that keeps custody. -/
theorem wp_commitCustody {error : ReceiptFailure} {event : Event}
    {post : Unit → Overlay BotRow → BotStore → Prop}
    (keeps : CustodyProgress noCancel store (own.view store))
    (after : ∀ later, Custody noCancel later →
      CustodyAdvances (own.view store) later → post () Overlay.none later) :
    (custodyRules Event permitted noCancel).wp
      (Session.commitTransaction error event) own store post :=
  wp_commitPermitted (fun _ => keeps) after

/-- A transition writes a row that satisfies the checks of its table. -/
theorem wp_transitionChecked {now : Timestamp} {current next : ReceiptState}
    {failureErrorClass : Option String} {reviewExpiryHours : Option Int}
    {confirmedExpenseId duplicateOfSubmissionId : Option Uuid}
    {post : Unit → Overlay BotRow → BotStore → Prop}
    (moved : ∀ row, own.view store (.submission submissionId) = some row →
      row.accountId = accountId → row.state = current →
      canTransition current next = true →
      (row.transitioned now next failureErrorClass reviewExpiryHours
        confirmedExpenseId duplicateOfSubmissionId).satisfiesChecks
          submissionId = true →
      post () (own.set (.submission submissionId) (some (row.transitioned now
        next failureErrorClass reviewExpiryHours confirmedExpenseId
        duplicateOfSubmissionId))) store) :
    (custodyRules Event permitted noCancel).wp (transitionState now
      submissionId accountId current next failureErrorClass
      reviewExpiryHours confirmedExpenseId duplicateOfSubmissionId) own store
      post := by
  unfold transitionState
  split
  case isFalse => trivial
  rename_i legal
  rw [Discipline.wp_monad_bind]
  refine Discipline.wp_selectForUpdate trivial trivial ?_
  intro row present selected
  simp only [Bool.and_eq_true, decide_eq_true_eq] at selected
  dsimp only
  split
  · rename_i checks
    exact moved row present selected.1 selected.2 legal checks
  · trivial

/-- A transition of a submission that is not stored by it. -/
theorem wp_transitionTended {now : Timestamp} {current next : ReceiptState}
    {failureErrorClass : Option String} {reviewExpiryHours : Option Int}
    {confirmedExpenseId duplicateOfSubmissionId : Option Uuid}
    {post : Unit → Overlay BotRow → BotStore → Prop}
    (tends : Tends noCancel store own) (notQueued : next ≠ .queued)
    (notStored : next ≠ .stored)
    (transient : next = .failedTransient → current ≠ .queued)
    (duplicate : ∀ original, duplicateOfSubmissionId = some original →
      next = .failedPermanent ∧ HasAsset (own.view store) original accountId)
    (moved : ∀ row last, Tends noCancel store last →
      last.view store (.submission submissionId) = some row →
      row.accountId = accountId → next ∈ row.history →
      (∀ original, duplicateOfSubmissionId = some original →
        row.duplicateOfSubmissionId = some original) →
      post () last store) :
    (custodyRules Event permitted noCancel).wp (transitionState now
      submissionId accountId current next failureErrorClass
      reviewExpiryHours confirmedExpenseId duplicateOfSubmissionId) own store
      post := by
  refine wp_transitionChecked fun row present owner isCurrent legal checks =>
    ?_
  subst isCurrent owner
  have written := Overlay.set_view_self own (.submission submissionId)
    (some (row.transitioned now next failureErrorClass reviewExpiryHours
      confirmedExpenseId duplicateOfSubmissionId)) store
  refine moved _ _ ?_ written rfl List.mem_cons_self ?_
  · exact CustodyMoves.trans tends (tends.custody.moved present legal checks
      notQueued notStored transient duplicate written (sameBut_set _ _))
  · intro original given
    simp [SubmissionRow.transitioned, given]

/-- A receipt job whose key is free is enqueued. -/
theorem wp_enqueueCustody {now : Timestamp} {jobId : Uuid}
    {jobType dedupeKey : String}
    {post : EnqueueOutcome → Overlay BotRow → BotStore → Prop}
    (isKey : (if jobType = jobTypeIngest then ingestDedupeKey submissionId
      else extractDedupeKey submissionId) = dedupeKey)
    (free : ∀ older existing, Custody noCancel older →
      CustodyAdvances older store →
      own.view older (.job dedupeKey) ≠ some existing)
    (enqueued : ∀ (last : Overlay BotRow) (job : JobRow),
      last.view store (.job dedupeKey) = some job → job.jobType = jobType →
      job.state = .queued →
      (∀ key, key ≠ .job dedupeKey → last key = own key) →
      post .enqueued last store) :
    (custodyRules Event permitted noCancel).wp (enqueueReceiptJob now jobId
      jobType submissionId accountId) own store post :=
  wp_enqueueReceiptJob (fun _ => trivial) isKey
    (fun older existing earlier =>
      free older existing earlier.invariant earlier.advances)
    fun last job present isType _ => enqueued last job present isType

/-- An outside effect on a row that is not in custody. -/
theorem wp_emitCustody {event : Event} {key : BotKey}
    {row : Option (BotRow key)} {next failed : Statement Event Value}
    {post : Value → Overlay BotRow → BotStore → Prop}
    (outside : ¬ key.InCustody)
    (continues : (custodyRules Event permitted noCancel).wp next own store
      post)
    (fails : (custodyRules Event permitted noCancel).wp failed own store
      post) :
    (custodyRules Event permitted noCancel).wp
      (.emit event key row next failed) own store post := by
  refine ⟨fun now earlier _ => ?_, continues, fails⟩
  have holds : Custody noCancel now := earlier.invariant
  refine (holds.undisturbed fun other inCustody _ => ?_).progress
  have different : other ≠ key := by
    rintro rfl
    exact outside inCustody
  exact Function.update_of_ne different _ _

/-- The original of a submission is marked as deleted. -/
theorem wp_markDeletedTended {now : Timestamp} {failed : ReceiptFailure}
    {post : Unit → Overlay BotRow → BotStore → Prop}
    (tends : Tends noCancel store own)
    (marked : ∀ last, Tends noCancel store last → post () last store) :
    (custodyRules Event permitted noCancel).wp
      (markAssetDeleted now failed submissionId) own store post := by
  unfold markAssetDeleted
  rw [Discipline.wp_monad_bind]
  refine Discipline.wp_selectForUpdate trivial (marked own tends) ?_
  intro asset present active
  let deleted : AssetRow :=
    { asset with deletionState := .deleted, originalDeletedAt := some now }
  let removed := (own.set (.asset submissionId) (some deleted)).set
    (.activeImage asset.accountId asset.image.contentSha256) none
  have written : removed.view store (.asset submissionId) = some deleted := by
    rw [Overlay.set_view_other (by simp), Overlay.set_view_self]
  have isDeleted : deleted.deletionState = .deleted := rfl
  have moves : CustodyMoves noCancel (own.view store) (removed.view store) := by
    refine tends.custody.originalDeleted present (by simpa using active)
      isDeleted rfl rfl written (Overlay.set_view_self _ _ _ _) ?_
    intro key _ untouched
    simp only [deletesRow, not_or] at untouched
    rw [Overlay.set_view_other untouched.2, Overlay.set_view_other untouched.1]
  exact ⟨fun _ => marked removed (CustodyMoves.trans tends moves),
    fun _ _ missed => by simp at missed, trivial⟩

end Receipts

end ZaloBot
