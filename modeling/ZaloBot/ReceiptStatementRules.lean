import ZaloBot.ReceiptLifecycle
import ZaloBot.SessionOutcomes

/-!
# Rules for the statements of the receipt lifecycle

What a verified session may assume after each statement on submissions, drafts
and assets, whatever discipline its machine follows.  The other statements
write none of the rows that the lifecycle is about, which is all that is said
of them.
-/

namespace ZaloBot

open Sessions

/-- The rows that the receipt lifecycle is about. -/
def BotKey.isReceiptRow : BotKey → Bool
  | .submission _ | .asset _ | .draft _ | .expense _ | .receiptExpense _ => true
  | _ => false

/-- The receipts are as before, except that assets may have changed or
appeared. -/
structure ReceiptsUndisturbed (before after : BotStore) : Prop where
  submissions : ∀ id, after (.submission id) = before (.submission id)
  drafts : ∀ id, after (.draft id) = before (.draft id)
  expenses : ∀ id, after (.expense id) = before (.expense id)
  receiptExpenses : ∀ id,
    after (.receiptExpense id) = before (.receiptExpense id)
  assets : ∀ id, (before (.asset id)).isSome → (after (.asset id)).isSome

namespace ReceiptsUndisturbed

theorem refl (store : BotStore) : ReceiptsUndisturbed store store :=
  ⟨fun _ => rfl, fun _ => rfl, fun _ => rfl, fun _ => rfl, fun _ => id⟩

theorem trans {first middle last : BotStore}
    (begun : ReceiptsUndisturbed first middle) (ended : ReceiptsUndisturbed middle last) :
    ReceiptsUndisturbed first last where
  submissions id := (ended.submissions id).trans (begun.submissions id)
  drafts id := (ended.drafts id).trans (begun.drafts id)
  expenses id := (ended.expenses id).trans (begun.expenses id)
  receiptExpenses id :=
    (ended.receiptExpenses id).trans (begun.receiptExpenses id)
  assets id present := ended.assets id (begun.assets id present)

/-- Rows of other tables. -/
theorem of_receiptRows {before after : BotStore}
    (same : ∀ key : BotKey, key.isReceiptRow = true →
      after key = before key) : ReceiptsUndisturbed before after where
  submissions _ := same _ rfl
  drafts _ := same _ rfl
  expenses _ := same _ rfl
  receiptExpenses _ := same _ rfl
  assets _ present := by rwa [same _ rfl]

variable {own : Overlay BotRow} {store : BotStore}

theorem set_other {key : BotKey} {row : Option (BotRow key)}
    (other : key.isReceiptRow = false) :
    ReceiptsUndisturbed (own.view store) ((own.set key row).view store) := by
  refine of_receiptRows fun receiptKey isRow => ?_
  refine Overlay.set_view_other ?_
  rintro rfl
  rw [other] at isRow
  contradiction

theorem set_asset {id : Uuid} {asset : AssetRow} :
    ReceiptsUndisturbed (own.view store)
      ((own.set (.asset id) (some asset)).view store) where
  submissions _ := Overlay.set_view_other (by simp)
  drafts _ := Overlay.set_view_other (by simp)
  expenses _ := Overlay.set_view_other (by simp)
  receiptExpenses _ := Overlay.set_view_other (by simp)
  assets other present := by
    by_cases same : other = id
    · subst same
      simp
    · rwa [Overlay.set_view_other (by simpa using same)]

end ReceiptsUndisturbed

namespace Receipts

variable {Event : Type} {rules : Discipline BotRow Event ReceiptFailure}
variable {own : Overlay BotRow} {store : BotStore}

/-- Statements that write certain rows only and fail only by refusing. -/
abbrev Within {Value : Type} (allowed : BotKey → Prop)
    (part : Statement Event Value) : Prop :=
  part.WritesWithin allowed fun error => ∃ refusal, error = .refused refusal

/-- Statements that write nothing and fail only by refusing. -/
abbrev OnlyReads {Value : Type} (part : Statement Event Value) : Prop :=
  Within (fun _ => False) part

/-- Statements that leave the rows of the receipt lifecycle alone and fail
only by refusing. -/
abbrev LeavesReceipts {Value : Type} (part : Statement Event Value) : Prop :=
  Within (fun key => key.isReceiptRow = false) part

section Quiet

variable {allowed : BotKey → Prop} {submissionId accountId : Uuid}

theorem within_refuse {Value : Type} (error : StoreError) :
    Within allowed (refuse error : Statement Event Value) :=
  ⟨error, rfl⟩

theorem within_query {Value : Type} (error : StoreError)
    (ask : BotStore → Value) :
    Within allowed
      (Session.query (.refused error) ask : Statement Event Value) :=
  Session.writesWithin_query ⟨error, rfl⟩

theorem within_loadSubmission :
    Within allowed
      (loadSubmission submissionId accountId : Statement Event _) := by
  refine .bind (within_query _ _) fun row => ?_
  cases row with
  | none => exact within_refuse _
  | some row => trivial

theorem within_enqueueReceiptJob {now : Timestamp} {jobId : Uuid}
    {jobType : String} (free : ∀ dedupeKey, allowed (.job dedupeKey)) :
    Within allowed (enqueueReceiptJob now jobId jobType submissionId
      accountId : Statement Event _) := by
  refine .bind ?_ fun outcome => ?_
  · unfold enqueueInTransaction
    split
    · exact within_refuse _
    · refine .bind (Session.writesWithin_insertRow ⟨_, rfl⟩ (free _))
        fun inserted => ?_
      cases inserted <;> trivial
  · cases outcome with
    | duplicate => trivial
    | enqueued =>
        exact .bind (Session.writesWithin_updateRow ⟨_, rfl⟩ (free _))
          fun _ => trivial

theorem writesWithin_loadSubmissionForUpdate :
    (loadSubmissionForUpdate submissionId accountId :
      Statement Event _).WritesWithin allowed fun _ => True := by
  refine .bind (Session.writesWithin_selectForUpdate trivial) fun row => ?_
  cases row <;> trivial

theorem writesWithin_transitionState {now : Timestamp}
    {current next : ReceiptState} {failureErrorClass : Option String}
    {reviewExpiryHours : Option Int}
    {confirmedExpenseId duplicateOfSubmissionId : Option Uuid}
    (free : allowed (.submission submissionId)) :
    (transitionState now submissionId accountId current next
      failureErrorClass reviewExpiryHours confirmedExpenseId
      duplicateOfSubmissionId : Statement Event Unit).WritesWithin allowed
        fun _ => True := by
  unfold transitionState
  split
  · refine .bind (Session.writesWithin_selectForUpdate trivial)
      fun row => ?_
    cases row with
    | none => trivial
    | some row =>
        dsimp only
        split
        · exact ⟨free, trivial⟩
        · trivial
  · trivial

theorem within_recordExtractionAttempt {attempt : ExtractionAttemptRow}
    (free : allowed (.extractionAttempts submissionId)) :
    Within allowed
      (recordExtractionAttempt submissionId attempt : Statement Event _) :=
  Session.writesWithin_upsertRow ⟨_, rfl⟩ free

theorem within_ensureCategory {categoryKey : String} :
    Within allowed (ensureCategory categoryKey : Statement Event _) := by
  refine .bind (within_query _ _) fun known => ?_
  cases known with
  | false => exact within_refuse _
  | true => trivial

theorem within_upsertDraft {draftId : Uuid} {extraction : ExtractionResult}
    (free : allowed (.draft submissionId)) :
    Within allowed (upsertDraft draftId submissionId accountId extraction :
      Statement Event _) :=
  .bind within_ensureCategory fun _ =>
    Session.writesWithin_upsertRow ⟨_, rfl⟩ free

theorem within_loadDraftForUpdate :
    Within allowed
      (loadDraftForUpdate submissionId accountId : Statement Event _) := by
  refine .bind (Session.writesWithin_selectForUpdate ⟨_, rfl⟩) fun row => ?_
  cases row with
  | none => exact within_refuse _
  | some row => trivial

theorem within_updateDraft {draft : DraftRow}
    (free : allowed (.draft submissionId)) :
    Within allowed (updateDraft submissionId draft : Statement Event _) := by
  refine .bind within_ensureCategory fun _ => ?_
  refine .bind (Session.writesWithin_updateRow ⟨_, rfl⟩ free)
    fun updated => ?_
  cases updated with
  | false => exact within_refuse _
  | true => trivial

theorem within_insertConfirmedExpense {expenseId : Uuid} {draft : DraftRow}
    (index : allowed (.receiptExpense submissionId))
    (free : allowed (.expense expenseId)) :
    Within allowed (insertConfirmedExpense expenseId accountId submissionId
      draft : Statement Event _) := by
  refine .bind (Session.writesWithin_insertRow ⟨_, rfl⟩ index)
    fun submissionFree => ?_
  cases submissionFree with
  | false => trivial
  | true =>
      refine .bind (Session.writesWithin_insertRow ⟨_, rfl⟩ free)
        fun inserted => ?_
      cases inserted with
      | false => exact ⟨_, rfl⟩
      | true => trivial

theorem within_checkField {Field Checked : Type} {field : Option Field}
    {check : Field → Except StoreError Checked} :
    Within allowed (checkField field check : Statement Event _) := by
  unfold checkField
  split
  · trivial
  · split
    · exact within_refuse _
    · trivial

theorem within_correctField {Field : Type} [DecidableEq Field]
    {draft : DraftRow} {fieldName : String} {render : Field → String}
    {current : Field} {edited : Option Field}
    (free : allowed (.corrections submissionId)) :
    Within allowed (correctField draft submissionId fieldName render current
      edited : Statement Event _) := by
  unfold correctField
  split
  · trivial
  · split
    · trivial
    · exact .bind (Session.writesWithin_upsertRow ⟨_, rfl⟩ free)
        fun _ => trivial

theorem within_editedDraft {toRfc3339 : Timestamp → String}
    {request : EditDraftRequest} {draft : DraftRow}
    (free : allowed (.corrections request.submissionId)) :
    Within allowed
      (editedDraft toRfc3339 request draft : Statement Event _) := by
  refine .bind within_checkField fun _ => ?_
  refine .bind within_checkField fun _ => ?_
  refine .bind within_checkField fun _ => ?_
  refine .bind ?_ fun _ => ?_
  · unfold checkCategory
    split
    · trivial
    · exact within_ensureCategory
  · refine .bind (within_correctField free) fun _ => ?_
    refine .bind (within_correctField free) fun _ => ?_
    refine .bind (within_correctField free) fun _ => ?_
    refine .bind (within_correctField free) fun _ => ?_
    refine .bind (within_correctField free) fun _ => ?_
    refine .bind within_checkField fun _ => ?_
    exact .bind (within_correctField free) fun _ => trivial

theorem within_readAndExtract {environment : ExtractEnvironment} :
    Within allowed (readAndExtract environment accountId submissionId) := by
  refine .bind (within_query _ _) fun asset => ?_
  cases asset with
  | none => exact within_refuse _
  | some asset =>
      refine .bind (within_query _ _) fun bytes => ?_
      cases bytes with
      | none => exact within_refuse _
      | some bytes =>
          dsimp only
          split
          · exact within_refuse _
          · trivial

theorem within_incrementInTransaction {error : StoreError}
    {scope scopeId period metric : String} {limit : Int}
    (free : allowed (.usageCounter scope scopeId period metric)) :
    Within allowed (UsageQuota.incrementInTransaction (.refused error) scope
      scopeId period metric limit : Statement Event _) :=
  ⟨fun _ => ⟨free, trivial⟩, error, rfl⟩

/-- After a statement that only reads. -/
theorem wp_onlyReads {Value : Type} {part : Statement Event Value}
    {post : Value → Overlay BotRow → BotStore → Prop}
    (refuses : ∀ error, rules.refusal (.refused error) store)
    (reads : OnlyReads part) (after : ∀ value, post value own store) :
    rules.wp part own store post := by
  refine Discipline.wp_mono ?_ (Discipline.wp_frame ?_ reads)
  · rintro value last final ⟨rfl, kept⟩
    obtain rfl : last = own := funext fun key => kept key not_false
    exact after value
  · rintro error ⟨refusal, rfl⟩
    exact refuses refusal

/-- After a statement that leaves the receipts alone. -/
theorem wp_leavesReceipts {Value : Type} {part : Statement Event Value}
    {post : Value → Overlay BotRow → BotStore → Prop}
    (refuses : ∀ error, rules.refusal (.refused error) store)
    (leaves : LeavesReceipts part)
    (after : ∀ value last, ReceiptsUndisturbed (own.view store) (last.view store) →
      post value last store) :
    rules.wp part own store post := by
  refine Discipline.wp_mono ?_ (Discipline.wp_frame ?_ leaves)
  · rintro value last final ⟨rfl, kept⟩
    refine after value last (.of_receiptRows fun key isRow => ?_)
    rw [Overlay.view, Overlay.view, kept key (by simp [isRow])]
  · rintro error ⟨refusal, rfl⟩
    exact refuses refusal

end Quiet

section Rows

variable {submissionId accountId : Uuid}

theorem wp_loadSubmissionForUpdate
    {post : SubmissionRow → Overlay BotRow → BotStore → Prop}
    (failed : rules.refusal (.dependency "submission lookup failed") store)
    (missing : rules.refusal
      (.refused (.notFound "receipt submission not found")) store)
    (found : ∀ row, own.view store (.submission submissionId) = some row →
      row.accountId = accountId → post row own store) :
    rules.wp (loadSubmissionForUpdate submissionId accountId) own store
      post := by
  unfold loadSubmissionForUpdate
  rw [Discipline.wp_monad_bind]
  refine Discipline.wp_selectForUpdate failed missing ?_
  intro row present owner
  exact found row present (by simpa using owner)

theorem wp_loadDraftForUpdate
    {post : DraftRow → Overlay BotRow → BotStore → Prop}
    (refuses : ∀ error, rules.refusal (.refused error) store)
    (found : ∀ row, own.view store (.draft submissionId) = some row →
      post row own store) :
    rules.wp (loadDraftForUpdate submissionId accountId) own store post := by
  unfold loadDraftForUpdate
  rw [Discipline.wp_monad_bind]
  refine Discipline.wp_selectForUpdate (refuses _) (refuses _) ?_
  intro row present _
  exact found row present

theorem wp_loadExistingSubmission {inboundEventId : Option Uuid}
    {post : Option (Uuid × SubmissionRow) → Overlay BotRow → BotStore → Prop}
    (refuses : ∀ error, rules.refusal (.refused error) store)
    (missing : post none own store)
    (found : ∀ id row, own.view store (.submission id) = some row →
      id = submissionId ∨ (∃ eventId, inboundEventId = some eventId ∧
        row.inboundEventId = some eventId) →
      post (some (id, row)) own store) :
    rules.wp (loadExistingSubmission submissionId inboundEventId) own store
      post := by
  unfold loadExistingSubmission
  rw [Discipline.wp_monad_bind]
  refine Discipline.wp_selectForUpdate (refuses _) ?_ ?_
  · cases inboundEventId with
    | none => exact missing
    | some inboundEventId =>
        dsimp only
        rw [Discipline.wp_monad_bind]
        refine Discipline.wp_query (refuses _) fun older _ => ?_
        cases own.view older (.eventSubmission inboundEventId) with
        | none => exact missing
        | some existingId =>
            dsimp only
            rw [Discipline.wp_monad_bind]
            refine Discipline.wp_selectForUpdate (refuses _) missing ?_
            intro row present named
            exact found existingId row present
              (.inr ⟨inboundEventId, rfl, of_decide_eq_true named⟩)
  · intro row present _
    cases inboundEventId with
    | none => exact found submissionId row present (.inl rfl)
    | some _ => exact found submissionId row present (.inl rfl)

/-- The entry of a new submission in the index of events. -/
def indexSubmission (own : Overlay BotRow) (submissionId : Uuid) :
    Option Uuid → Overlay BotRow
  | none => own
  | some eventId => own.set (.eventSubmission eventId) (some submissionId)

theorem indexSubmission_other {inboundEventId : Option Uuid} {key : BotKey}
    (different : ∀ eventId, inboundEventId = some eventId →
      key ≠ .eventSubmission eventId) :
    indexSubmission own submissionId inboundEventId key = own key := by
  cases inboundEventId with
  | none => rfl
  | some eventId =>
      exact Function.update_of_ne (different eventId rfl) _ _

theorem indexSubmission_view_other {inboundEventId : Option Uuid}
    {key : BotKey} (different : ∀ eventId, inboundEventId = some eventId →
      key ≠ .eventSubmission eventId) :
    (indexSubmission own submissionId inboundEventId).view store key =
      own.view store key := by
  rw [Overlay.view, indexSubmission_other different, Overlay.view]

/-- An insertion writes nothing, or a new submission whose event is free. -/
theorem wp_insertSubmissionRow {inboundEventId : Option Uuid}
    {post : Bool → Overlay BotRow → BotStore → Prop}
    (refuses : ∀ error, rules.refusal (.refused error) store)
    (taken : ∀ last, last.view store = own.view store →
      (∀ key, (∀ eventId, key ≠ .eventSubmission eventId) →
        last key = own key) → post false last store)
    (inserted : own.view store (.submission submissionId) = none →
      (∀ eventId, inboundEventId = some eventId →
        own.view store (.eventSubmission eventId) = none) →
      post true ((indexSubmission own submissionId inboundEventId).set
        (.submission submissionId) (some (.new accountId inboundEventId)))
        store) :
    rules.wp (insertSubmission submissionId accountId inboundEventId) own
      store post := by
  cases inboundEventId with
  | none =>
      exact Discipline.wp_insertRow (refuses _)
        (fun _ _ _ _ => taken own rfl fun _ _ => rfl)
        fun free => inserted free (by simp)
  | some inboundEventId =>
      dsimp only [insertSubmission]
      rw [Discipline.wp_monad_bind]
      refine Discipline.wp_insertRow (refuses _)
        (fun _ _ _ _ => taken own rfl fun _ _ => rfl) fun eventFree => ?_
      rw [if_pos rfl, Discipline.wp_monad_bind]
      refine Discipline.wp_insertRow (refuses _) (fun _ _ _ _ => ?_)
        fun free => ?_
      · refine taken ((own.set _ _).set (.eventSubmission inboundEventId)
          none) ?_ fun key outside => ?_
        · funext key
          by_cases same : key = .eventSubmission inboundEventId
          · subst same
            rw [Overlay.set_view_self, eventFree]
          · rw [Overlay.set_view_other same, Overlay.set_view_other same]
        · exact (Function.update_of_ne (outside _) _ _).trans
            (Function.update_of_ne (outside _) _ _)
      · rw [Overlay.set_view_other (by simp)] at free
        refine inserted free fun eventId isEvent => ?_
        cases isEvent
        exact eventFree

theorem wp_insertSubmission {inboundEventId : Option Uuid}
    {post : Bool → Overlay BotRow → BotStore → Prop}
    (refuses : ∀ error, rules.refusal (.refused error) store)
    (taken : ∀ last, ReceiptsUndisturbed (own.view store) (last.view store) →
      post false last store)
    (inserted : ∀ last : Overlay BotRow,
      ReceiptsUndisturbed (own.view store) (last.view store) →
      last.view store (.submission submissionId) = none →
      post true (last.set (.submission submissionId)
        (some (.new accountId inboundEventId))) store) :
    rules.wp (insertSubmission submissionId accountId inboundEventId) own
      store post := by
  refine wp_insertSubmissionRow refuses (fun last same _ => ?_)
    fun free _ => ?_
  · exact taken last (same ▸ .refl _)
  · refine inserted _ ?_ ?_
    · cases inboundEventId with
      | none => exact .refl _
      | some inboundEventId => exact .set_other rfl
    · rw [indexSubmission_view_other (by simp)]
      exact free

theorem wp_transitionState {now : Timestamp} {current next : ReceiptState}
    {failureErrorClass : Option String} {reviewExpiryHours : Option Int}
    {confirmedExpenseId duplicateOfSubmissionId : Option Uuid}
    {post : Unit → Overlay BotRow → BotStore → Prop}
    (refuses : ∀ error, rules.refusal (.refused error) store)
    (moved : ∀ row, own.view store (.submission submissionId) = some row →
      row.state = current → canTransition current next = true →
      let updated := row.transitioned now next failureErrorClass
        reviewExpiryHours confirmedExpenseId duplicateOfSubmissionId
      updated.satisfiesChecks submissionId = true ∧
        post () (own.set (.submission submissionId) (some updated)) store) :
    rules.wp (transitionState now submissionId accountId current next
      failureErrorClass reviewExpiryHours confirmedExpenseId
      duplicateOfSubmissionId) own store post := by
  unfold transitionState
  split
  · rename_i legal
    rw [Discipline.wp_monad_bind]
    refine Discipline.wp_selectForUpdate (refuses _) (refuses _) ?_
    intro row present selected
    simp only [Bool.and_eq_true, decide_eq_true_eq] at selected
    have moves := moved row present selected.2 legal
    dsimp only at moves
    simp only [moves.1, if_true]
    exact moves.2
  · exact refuses _

/-- A receipt job whose key is free is enqueued. -/
theorem wp_enqueueReceiptJob {now : Timestamp} {jobId : Uuid}
    {jobType dedupeKey : String}
    {post : EnqueueOutcome → Overlay BotRow → BotStore → Prop}
    (refuses : ∀ error, rules.refusal (.refused error) store)
    (isKey : (if jobType = jobTypeIngest then ingestDedupeKey submissionId
      else extractDedupeKey submissionId) = dedupeKey)
    (free : ∀ older existing, rules.Earlier older store →
      own.view older (.job dedupeKey) ≠ some existing)
    (enqueued : ∀ (last : Overlay BotRow) (job : JobRow),
      last.view store (.job dedupeKey) = some job → job.jobType = jobType →
      job.payload.members =
        [("receipt_submission_id", submissionId.text)] →
      job.state = .queued →
      (∀ key, key ≠ .job dedupeKey → last key = own key) →
      post .enqueued last store) :
    rules.wp (enqueueReceiptJob now jobId jobType submissionId accountId) own
      store post := by
  subst isKey
  unfold enqueueReceiptJob enqueueInTransaction
  rw [Discipline.wp_monad_bind]
  dsimp only
  split
  · exact refuses _
  rw [Discipline.wp_monad_bind]
  refine Discipline.wp_insertRow (refuses _) ?_ fun _ => ?_
  · intro older existing earlier present
    exact absurd present (free older existing earlier)
  rw [if_pos rfl, Discipline.wp_pure]
  dsimp only
  rw [Discipline.wp_monad_bind]
  refine Discipline.wp_updateRow (refuses _) ?_ fun row present _ => ?_
  · refine enqueued _ _ (Overlay.set_view_self _ _ _ _) rfl rfl rfl ?_
    intro key different
    rw [Overlay.set, Function.update_of_ne different]
  · rw [Overlay.set_view_self] at present
    cases present
    refine enqueued _ _ (Overlay.set_view_self _ _ _ _) rfl rfl rfl ?_
    intro key different
    rw [Overlay.set, Function.update_of_ne different, Overlay.set,
      Function.update_of_ne different]

theorem wp_insertAsset {now : Timestamp} {assetId : Uuid}
    {objectKey : String} {image : ValidatedImage}
    {post : AssetInsert → Overlay BotRow → BotStore → Prop}
    (refuses : ∀ error, rules.refusal (.refused error) store)
    (conflict : ∀ last, post .uniqueConflict last store)
    (inserted : ∀ last, ReceiptsUndisturbed (own.view store) (last.view store) →
      (last.view store (.asset submissionId)).isSome →
      post .inserted last store) :
    rules.wp (insertAsset now assetId submissionId accountId objectKey image)
      own store post := by
  unfold insertAsset
  rw [Discipline.wp_monad_bind]
  refine Discipline.wp_query (refuses _) fun older _ => ?_
  cases own.view older (.account accountId) with
  | none => exact refuses _
  | some account =>
      dsimp only
      rw [Discipline.wp_monad_bind]
      refine Discipline.wp_insertRow (refuses _)
        (fun _ _ _ _ => conflict own) fun _ => ?_
      rw [if_pos rfl, Discipline.wp_monad_bind]
      refine Discipline.wp_insertRow (refuses _)
        (fun _ _ _ _ => conflict _) fun _ => ?_
      refine inserted _ ?_ ?_
      · exact ReceiptsUndisturbed.set_asset.trans (.set_other rfl)
      · rw [Overlay.set_view_other (by simp), Overlay.set_view_self]
        rfl

theorem wp_markAssetDeleted {now : Timestamp} {error : StoreError}
    {post : Unit → Overlay BotRow → BotStore → Prop}
    (refuses : ∀ error, rules.refusal (.refused error) store)
    (marked : ∀ last, ReceiptsUndisturbed (own.view store) (last.view store) →
      post () last store) :
    rules.wp (markAssetDeleted now (.refused error) submissionId) own store
      post := by
  unfold markAssetDeleted
  rw [Discipline.wp_monad_bind]
  refine Discipline.wp_selectForUpdate (refuses _) (marked own (.refl _)) ?_
  intro asset _ _
  refine ⟨fun _ => marked _ ?_, fun _ _ missed => ?_, refuses _⟩
  · exact ReceiptsUndisturbed.set_asset.trans (.set_other rfl)
  · simp at missed

theorem wp_upsertDraft {draftId : Uuid} {extraction : ExtractionResult}
    {post : Unit → Overlay BotRow → BotStore → Prop}
    (refuses : ∀ error, rules.refusal (.refused error) store)
    (stored : ∀ (last : Overlay BotRow) (draft : DraftRow),
      ReceiptsUndisturbed (own.view store) (last.view store) →
      (∀ before, own.view store (.draft submissionId) = some before →
        before.version ≤ draft.version) →
      post () (last.set (.draft submissionId) (some draft)) store) :
    rules.wp (upsertDraft draftId submissionId accountId extraction) own store
      post := by
  unfold upsertDraft
  rw [Discipline.wp_monad_bind]
  refine wp_leavesReceipts refuses within_ensureCategory ?_
  intro _ last same
  refine Discipline.wp_upsertRow (refuses _) (stored last _ same ?_)
  intro before present
  rw [same.drafts, present]
  exact Int.le_add_one (Int.le_refl _)

theorem wp_updateDraft {draft : DraftRow}
    {post : Unit → Overlay BotRow → BotStore → Prop}
    (refuses : ∀ error, rules.refusal (.refused error) store)
    (updated : ∀ (last : Overlay BotRow) (before after : DraftRow),
      ReceiptsUndisturbed (own.view store) (last.view store) →
      own.view store (.draft submissionId) = some before →
      after.version = before.version + 1 →
      post () (last.set (.draft submissionId) (some after)) store) :
    rules.wp (updateDraft submissionId draft) own store post := by
  unfold updateDraft
  rw [Discipline.wp_monad_bind]
  refine wp_leavesReceipts refuses within_ensureCategory ?_
  intro _ last same
  rw [Discipline.wp_monad_bind]
  refine Discipline.wp_updateRow (refuses _) (refuses _) ?_
  intro row present _
  rw [same.drafts] at present
  exact updated last row _ same present rfl

theorem wp_insertConfirmedExpense {expenseId : Uuid} {draft : DraftRow}
    {post : Unit → Overlay BotRow → BotStore → Prop}
    (refuses : ∀ error, rules.refusal (.refused error) store)
    (taken : ∀ older existing, rules.Earlier older store →
      own.view older (.receiptExpense submissionId) = some existing →
        post () own store)
    (inserted : own.view store (.receiptExpense submissionId) = none →
      own.view store (.expense expenseId) = none →
      post () ((own.set (.receiptExpense submissionId) (some expenseId)).set
        (.expense expenseId)
        (some (confirmedExpense accountId submissionId draft))) store) :
    rules.wp (insertConfirmedExpense expenseId accountId submissionId draft)
      own store post := by
  unfold insertConfirmedExpense
  rw [Discipline.wp_monad_bind]
  refine Discipline.wp_insertRow (refuses _) taken fun unbooked => ?_
  rw [if_pos rfl, Discipline.wp_monad_bind]
  refine Discipline.wp_insertRow (refuses _) (fun _ _ _ _ => refuses _)
    fun fresh => ?_
  rw [Overlay.set_view_other (by simp)] at fresh
  exact inserted unbooked fresh

/-- The lookup of an expense that the transaction itself has inserted. -/
theorem wp_lookupConfirmedExpenseId (expenseId : Uuid)
    {post : Uuid → Overlay BotRow → BotStore → Prop}
    (refuses : ∀ error, rules.refusal (.refused error) store)
    (inserted : ∀ older : BotStore,
      own.view older (.receiptExpense submissionId) = some expenseId)
    (after : post expenseId own store) :
    rules.wp (lookupConfirmedExpenseId submissionId) own store post := by
  unfold lookupConfirmedExpenseId
  rw [Discipline.wp_monad_bind]
  refine Discipline.wp_query (refuses _) fun older _ => ?_
  rw [inserted older]
  exact after

end Rows

end Receipts

end ZaloBot
