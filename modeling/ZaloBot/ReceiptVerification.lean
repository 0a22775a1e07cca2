import ZaloBot.ExpenseStatements
import ZaloBot.ReceiptDiscipline

/-!
# Every operation keeps the discipline

Each operation of the receipt lifecycle is verified on its own.  A transaction
concludes if it commits only what is in order; an operation completes if all
its transactions conclude, whatever other sessions commit in between.
-/

namespace ZaloBot

open Sessions

namespace Receipts

/-- A transaction under way that keeps the discipline to its end. -/
def Concludes {Value : Type} (own : Overlay BotRow) (store : BotStore)
    (rest : Operation Value) : Prop :=
  ∀ (refusal : ReceiptFailure → BotStore → Prop)
    (post : Value → Overlay BotRow → BotStore → Prop),
    (∀ error later, ReceiptProgress store later →
      refusal (.refused error) later) →
    (∀ value later, ReceiptProgress store later →
      post value Overlay.none later) →
    (receiptRules refusal).wp rest own store post

/-- An operation that keeps the discipline. -/
def Completes {Value : Type} (operation : Operation Value) : Prop :=
  ∀ store, ReceiptInvariant store →
    Concludes Overlay.none store operation

section Composition

variable {Value Other : Type} {own : Overlay BotRow} {store : BotStore}

theorem later_receiptRules {refusal : ReceiptFailure → BotStore → Prop}
    {later : BotStore} :
    (receiptRules refusal).Later store later ↔
      ReceiptProgress store later :=
  ⟨fun ⟨holds, advances⟩ => ⟨holds, advances⟩,
    fun ⟨holds, advances⟩ => ⟨holds, advances⟩⟩

theorem Concludes.bind {first : Operation Value}
    {rest : Value → Operation Other} (concludes : Concludes own store first)
    (completes : ∀ value, Completes (rest value)) :
    Concludes own store (first >>= rest) := by
  intro refusal post refuses after
  rw [Discipline.wp_monad_bind]
  refine concludes refusal _ refuses fun value later progress => ?_
  exact completes value later progress.invariant refusal post
    (fun error last further => refuses error last (progress.trans further))
    (fun value last further => after value last (progress.trans further))

theorem Completes.bind {first : Operation Value}
    {rest : Value → Operation Other} (begins : Completes first)
    (completes : ∀ value, Completes (rest value)) :
    Completes (first >>= rest) :=
  fun store holds => (begins store holds).bind completes

theorem completes_pure (value : Value) : Completes (pure value) :=
  fun _ holds _ _ _ after => after value _ (.refl holds)

theorem concludes_refuse (holds : ReceiptInvariant store)
    (error : StoreError) :
    Concludes own store (refuse error : Operation Value) :=
  fun _ _ refuses _ => refuses error store (.refl holds)

theorem completes_refuse (error : StoreError) :
    Completes (refuse error : Operation Value) :=
  fun _ holds => concludes_refuse holds error

theorem concludes_rollback {rest : Operation Value}
    (completes : Completes rest) :
    Concludes own store (.rollback rest) := by
  intro refusal post refuses after later isLater
  have progress := later_receiptRules.mp isLater
  exact completes later progress.invariant refusal post
    (fun error last further => refuses error last (progress.trans further))
    (fun value last further => after value last (progress.trans further))

theorem concludes_commit {error : StoreError} {event : ReceiptEvent}
    (progress : ReceiptProgress store (own.view store))
    (facts : receiptFacts store event (own.view store)) :
    Concludes own store (.commitTransaction (.refused error) event) := by
  intro refusal post refuses after
  refine ⟨fun _ => ⟨⟨progress, facts⟩, fun later isLater => ?_⟩,
    fun later isLater => refuses _ later (later_receiptRules.mp isLater)⟩
  have further := progress.trans (later_receiptRules.mp isLater)
  exact ⟨after () later further, refuses _ later further⟩

theorem concludes_commit_bind {error : StoreError} {event : ReceiptEvent}
    {rest : Unit → Operation Value}
    (progress : ReceiptProgress store (own.view store))
    (facts : receiptFacts store event (own.view store))
    (completes : Completes (rest ())) :
    Concludes own store
      (Session.commitTransaction (.refused error) event >>= rest) :=
  (concludes_commit progress facts).bind fun _ => completes

/-- An operation whose errors are handled. -/
theorem Completes.attempt {operation : Operation Value}
    {rest : Except ReceiptFailure Value → Operation Other}
    (completes : Completes operation)
    (succeeded : ∀ value, Completes (rest (.ok value)))
    (failed : ∀ error, Completes (rest (.error (.refused error)))) :
    Completes (operation.attempt >>= rest) := by
  intro store holds refusal post refuses after
  rw [Discipline.wp_monad_bind, Discipline.wp_attempt]
  refine completes store holds _ _ ?_ ?_
  · intro error later progress last isLast
    have further := progress.trans (later_receiptRules.mp isLast)
    exact failed error last further.invariant refusal post
      (fun error final ends => refuses error final (further.trans ends))
      (fun value final ends => after value final (further.trans ends))
  · intro value later progress
    exact succeeded value later progress.invariant refusal post
      (fun error final ends => refuses error final (progress.trans ends))
      (fun value final ends => after value final (progress.trans ends))

end Composition

section Transactions

variable {Value Other : Type} {own : Overlay BotRow} {store : BotStore}
variable {submissionId accountId : Uuid}

theorem Concludes.load {rest : SubmissionRow → Operation Other}
    (holds : ReceiptInvariant store)
    (found : ∀ row, own.view store (.submission submissionId) = some row →
      Concludes own store (rest row)) :
    Concludes own store
      (loadSubmissionForUpdate submissionId accountId >>= rest) := by
  intro refusal post refuses after
  rw [Discipline.wp_monad_bind]
  refine wp_loadSubmissionForUpdate (refuses _ store (.refl holds))
    (refuses _ store (.refl holds)) fun row present _ => ?_
  exact found row present refusal post refuses after

theorem Concludes.quiet {part : Operation Value}
    {rest : Value → Operation Other} (holds : ReceiptInvariant store)
    (leaves : LeavesReceipts part)
    (concludes : ∀ value last,
      ReceiptsUndisturbed (own.view store) (last.view store) →
        Concludes last store (rest value)) :
    Concludes own store (part >>= rest) := by
  intro refusal post refuses after
  rw [Discipline.wp_monad_bind]
  refine wp_leavesReceipts (fun error => refuses error store (.refl holds))
    leaves fun value last same => ?_
  exact concludes value last same refusal post refuses after

/-- A query outside any transaction. -/
theorem Completes.ask {part : Operation Value}
    {rest : Value → Operation Other} (reads : OnlyReads part)
    (completes : ∀ value, Completes (rest value)) :
    Completes (part >>= rest) := by
  intro store holds refusal post refuses after
  rw [Discipline.wp_monad_bind]
  refine wp_onlyReads (fun error => refuses error store (.refl holds)) reads
    fun value => ?_
  exact completes value store holds refusal post refuses after

theorem OnlyReads.completes {part : Operation Value} (reads : OnlyReads part) :
    Completes part :=
  fun store holds _ _ refuses after =>
    wp_onlyReads (fun error => refuses error store (.refl holds)) reads
      fun value => after value store (.refl holds)

/-- A transition other than a confirmation. -/
theorem wp_move {refusal : ReceiptFailure → BotStore → Prop}
    {post : Unit → Overlay BotRow → BotStore → Prop} {now : Timestamp}
    {row : SubmissionRow} {next : ReceiptState}
    {failureErrorClass : Option String} {reviewExpiryHours : Option Int}
    {duplicateOfSubmissionId : Option Uuid}
    (refuses : ∀ error, refusal (.refused error) store)
    (progress : ReceiptProgress store (own.view store))
    (present : own.view store (.submission submissionId) = some row)
    (unconfirmed : next ≠ .confirmed)
    (expiry : next = .reviewRequired → reviewExpiryHours.isSome)
    (duplicate : ∀ original, duplicateOfSubmissionId = some original →
      next = .failedPermanent ∧ original ≠ submissionId)
    (moved : ∀ updated : SubmissionRow,
      (∀ after : BotStore, ReceiptsUndisturbed
        ((own.set (.submission submissionId) (some updated)).view store)
          after →
        (next = .stored → (after (.asset submissionId)).isSome) →
          ReceiptProgress store after) →
      next ∈ updated.history →
      post () (own.set (.submission submissionId) (some updated)) store) :
    (receiptRules refusal).wp (transitionState now submissionId accountId
      row.state next failureErrorClass reviewExpiryHours none
      duplicateOfSubmissionId) own store post := by
  refine wp_transitionState refuses fun found presentFound _ legal => ?_
  rw [present] at presentFound
  cases presentFound
  have unbooked : (none : Option Uuid).isSome ↔ next = .confirmed := by
    simp [unconfirmed]
  have checks := @SubmissionRow.satisfiesChecks_transitioned _ _ now _
    failureErrorClass _ _ _
    (progress.invariant.legal submissionId row present).checks legal unbooked
    expiry duplicate
  refine ⟨checks, moved _ ?_ List.mem_cons_self⟩
  intro view same stored
  exact progress.transition present legal checks unconfirmed same stored

theorem Concludes.move {rest : Unit → Operation Other} {now : Timestamp}
    {row : SubmissionRow} {next : ReceiptState}
    {failureErrorClass : Option String} {reviewExpiryHours : Option Int}
    {duplicateOfSubmissionId : Option Uuid}
    (holds : ReceiptInvariant store)
    (progress : ReceiptProgress store (own.view store))
    (present : own.view store (.submission submissionId) = some row)
    (unconfirmed : next ≠ .confirmed)
    (expiry : next = .reviewRequired → reviewExpiryHours.isSome)
    (duplicate : ∀ original, duplicateOfSubmissionId = some original →
      next = .failedPermanent ∧ original ≠ submissionId)
    (concludes : ∀ updated : SubmissionRow,
      (∀ after : BotStore, ReceiptsUndisturbed
        ((own.set (.submission submissionId) (some updated)).view store)
          after →
        (next = .stored → (after (.asset submissionId)).isSome) →
          ReceiptProgress store after) →
      Concludes (own.set (.submission submissionId) (some updated)) store
        (rest ())) :
    Concludes own store (transitionState now submissionId accountId row.state
      next failureErrorClass reviewExpiryHours none duplicateOfSubmissionId
      >>= rest) := by
  intro refusal post refuses after
  rw [Discipline.wp_monad_bind]
  refine wp_move (fun error => refuses error store (.refl holds)) progress
    present unconfirmed expiry duplicate fun updated inOrder _ => ?_
  exact concludes updated inOrder refusal post refuses after

theorem Concludes.upsert {rest : Unit → Operation Other} {draftId : Uuid}
    {extraction : ExtractionResult} (holds : ReceiptInvariant store)
    (progress : ReceiptProgress store (own.view store))
    (concludes : ∀ (last : Overlay BotRow) (draft : DraftRow),
      ReceiptsUndisturbed (own.view store) (last.view store) →
      ReceiptProgress store
        ((last.set (.draft submissionId) (some draft)).view store) →
      Concludes (last.set (.draft submissionId) (some draft)) store
        (rest ())) :
    Concludes own store
      (upsertDraft draftId submissionId accountId extraction >>= rest) := by
  intro refusal post refuses after
  rw [Discipline.wp_monad_bind]
  refine wp_upsertDraft (fun error => refuses error store (.refl holds))
    fun last draft same newer => ?_
  refine concludes last draft same ?_ refusal post refuses after
  refine (progress.undisturbed same).draft fun before present => ?_
  exact newer before ((same.drafts submissionId).symm.trans present)

/-- An effect on the object store. -/
theorem Concludes.object {rest : Unit → Operation Other}
    {event : ReceiptEvent} {objectKey : String}
    {bytes : Option (List UInt8)} {error : StoreError}
    (holds : ReceiptInvariant store)
    (unnamed : ∀ before after, receiptFacts before event after)
    (concludes : Concludes own store (rest ())) :
    Concludes own store (Session.emit event (.object objectKey) bytes
      (pure ()) (refuse error) >>= rest) := by
  intro refusal post refuses after
  refine ⟨fun now earlier _ => ⟨?_, unnamed _ _⟩,
    concludes refusal post refuses after, refuses error store (.refl holds)⟩
  have same : ReceiptsUndisturbed (Overlay.none.view now)
      ((Overlay.none.set (.object objectKey) bytes).view now) :=
    .set_other rfl
  rw [Overlay.set_view] at same
  exact .undisturbed (.refl earlier.invariant) same

end Transactions

section SmallOperations

variable {now : Timestamp} {submissionId accountId : Uuid}

theorem completes_failQueued {errorClass : ErrorClass} :
    Completes (failQueued now submissionId accountId errorClass) := by
  intro store holds
  refine .load holds fun row present => ?_
  split
  · exact concludes_commit (.refl holds) trivial
  · split
    · exact concludes_refuse holds _
    · rename_i _ queued
      have isQueued : row.state = .queued := by simpa using queued
      rw [← isQueued]
      refine .move holds (.refl holds) present (by simp) (by simp) (by simp) ?_
      intro updated inOrder
      exact concludes_commit (inOrder _ (.refl _) (by simp)) trivial

theorem completes_markFailure {terminalState : ReceiptState}
    {errorClass : ErrorClass}
    (failed : terminalState = .failedTransient ∨
      terminalState = .failedPermanent) :
    Completes (markFailure now submissionId accountId terminalState
      errorClass) := by
  intro store holds
  refine .load holds fun row present => ?_
  split
  · refine .move holds (.refl holds) present ?_ ?_ (by simp) ?_
    · rcases failed with rfl | rfl <;> simp
    · rcases failed with rfl | rfl <;> simp
    · intro updated inOrder
      refine concludes_commit (inOrder _ (.refl _) ?_) trivial
      rcases failed with rfl | rfl <;> simp
  · exact concludes_commit (.refl holds) trivial

theorem completes_absorbDuplicate {originalSubmissionId : Uuid}
    (different : originalSubmissionId ≠ submissionId) :
    Completes (absorbDuplicate now submissionId accountId
      originalSubmissionId) := by
  intro store holds
  refine .load holds fun row present => ?_
  split
  · exact concludes_commit (.refl holds) trivial
  · refine .move holds (.refl holds) present (by simp) (by simp) ?_ ?_
    · rintro original ⟨⟩
      exact ⟨rfl, different⟩
    · intro updated inOrder
      exact concludes_commit (inOrder _ (.refl _) (by simp)) trivial

theorem completes_claimExtracting :
    Completes (claimExtracting now accountId submissionId) := by
  intro store holds
  refine .load holds fun row present => ?_
  split
  · exact concludes_commit_bind (.refl holds) trivial
      (completes_pure _)
  · split
    · exact concludes_commit_bind (.refl holds) trivial
        (completes_pure _)
    · split
      · refine .move holds (.refl holds) present (by simp) (by simp) (by simp)
          ?_
        intro updated inOrder
        exact concludes_commit_bind (inOrder _ (.refl _) (by simp)) trivial
          (completes_pure _)
      · split
        · exact concludes_commit_bind (.refl holds) trivial
            (completes_pure _)
        · exact concludes_refuse holds _

theorem completes_persistExtractionFailure {errorClass : ErrorClass}
    {terminalState : ReceiptState}
    (failed : terminalState = .failedTransient ∨
      terminalState = .failedPermanent) :
    Completes (persistExtractionFailure now accountId submissionId errorClass
      terminalState) := by
  intro store holds
  refine .load holds fun row present => ?_
  split
  · exact concludes_rollback (completes_pure _)
  · rename_i extracting
    have isExtracting : row.state = .extracting := by simpa using extracting
    refine .quiet holds (within_query _ _)
      fun attempts last same => ?_
    refine .quiet holds (within_recordExtractionAttempt rfl)
      fun _ final further => ?_
    have unchanged := same.trans further
    rw [← isExtracting]
    refine .move holds (.undisturbed (.refl holds) unchanged)
      ((unchanged.submissions submissionId).trans present) ?_ ?_ (by simp) ?_
    · rcases failed with rfl | rfl <;> simp
    · rcases failed with rfl | rfl <;> simp
    · intro updated inOrder
      refine concludes_commit (inOrder _ (.refl _) ?_) trivial
      rcases failed with rfl | rfl <;> simp

theorem failureStateFor_failed (errorClass : ErrorClass) :
    failureStateFor errorClass = .failedTransient ∨
      failureStateFor errorClass = .failedPermanent := by
  cases errorClass <;> simp [failureStateFor]

end SmallOperations

section Extraction

variable {now : Timestamp} {submissionId accountId : Uuid}
variable {config : ReceiptConfig} {environment : ExtractEnvironment}

theorem completes_persistExtractionSuccess {draftId : Uuid}
    {extraction : ExtractionResult} :
    Completes (persistExtractionSuccess config now draftId accountId
      submissionId extraction) := by
  intro store holds
  refine .load holds fun row present => ?_
  split
  · exact concludes_commit_bind (.refl holds) trivial
      (completes_pure _)
  · split
    · exact concludes_rollback (completes_pure _)
    · split
      · exact concludes_rollback (completes_refuse _)
      · rename_i extracting
        have isExtracting : row.state = .extracting := by
          simpa using extracting
        refine .quiet holds (within_query _ _)
          fun attempts last same => ?_
        refine .quiet holds (within_recordExtractionAttempt rfl)
          fun _ final further => ?_
        have unchanged := same.trans further
        refine .upsert holds (.undisturbed (.refl holds) unchanged)
          fun reached draft kept progress => ?_
        rw [← isExtracting]
        refine .move holds progress ?_ (by simp) (by simp) (by simp) ?_
        · rw [Overlay.set_view_other (by simp), kept.submissions,
            unchanged.submissions]
          exact present
        · intro updated inOrder
          exact concludes_commit_bind (inOrder _ (.refl _) (by simp)) trivial
            (completes_pure _)

theorem completes_readAndExtract :
    Completes (readAndExtract environment accountId submissionId) := by
  refine .ask (within_query _ _) fun asset => ?_
  cases asset with
  | none => exact completes_refuse _
  | some asset =>
      refine .ask (within_query _ _) fun bytes => ?_
      cases bytes with
      | none => exact completes_refuse _
      | some bytes =>
          dsimp only
          split
          · exact completes_refuse _
          · exact completes_pure _

theorem completes_extractClaimed :
    Completes (extractClaimed config environment accountId submissionId) := by
  refine completes_readAndExtract.attempt (fun extraction => ?_)
    fun error => ?_
  · dsimp only
    split
    · exact (completes_persistExtractionFailure (Or.inr rfl)).bind
        fun _ => completes_pure _
    · exact completes_persistExtractionSuccess
  · exact (completes_persistExtractionFailure
      (failureStateFor_failed _)).bind fun _ => completes_refuse _

theorem completes_extract :
    Completes (extract config environment accountId submissionId) := by
  refine completes_claimExtracting.bind fun claimed => ?_
  cases claimed with
  | some outcome => exact completes_pure _
  | none =>
      refine .ask (within_query _ _) fun active => ?_
      split
      · split
        · intro store holds
          refine .quiet holds (within_incrementInTransaction rfl)
            fun counter last same => ?_
          refine concludes_commit_bind (.undisturbed (.refl holds) same)
            trivial ?_
          split
          · exact (completes_persistExtractionFailure (Or.inr rfl)).bind
              fun _ => completes_refuse _
          · exact completes_extractClaimed
        · exact (completes_persistExtractionFailure (Or.inr rfl)).bind
            fun _ => completes_refuse _
      · exact completes_pure _

end Extraction

section Ingest

variable {now : Timestamp} {submissionId accountId : Uuid}
variable {environment : IngestEnvironment} {objectKey : String}
variable {validated : ValidatedImage} {extractJobId : Uuid}

theorem completes_absorbed {Value : Type} {contentSha256 : String}
    {absorbed : Uuid → Value} {rest : Operation Value}
    (completes : Completes rest) :
    Completes (do
      let original ← findActiveDuplicate accountId contentSha256
      match original.filter (· ≠ submissionId) with
      | some original => do
          absorbDuplicate now submissionId accountId original
          pure (absorbed original)
      | none => rest) := by
  refine .ask (within_query _ _) fun original => ?_
  split
  · rename_i found other
    have different : found ≠ submissionId := by
      simpa using (Option.filter_eq_some_iff.mp other).2
    exact (completes_absorbDuplicate different).bind fun _ => completes_pure _
  · exact completes

theorem completes_persistStoredIngest :
    Completes (persistStoredIngest environment accountId submissionId
      objectKey validated extractJobId) := by
  intro store holds
  refine .load holds fun row present => ?_
  split
  · exact concludes_commit_bind (.refl holds) trivial (completes_pure _)
  · split
    · exact concludes_rollback (completes_pure _)
    · split
      · exact concludes_rollback (completes_refuse _)
      · refine .move holds (.refl holds) present (by simp) (by simp) (by simp)
          ?_
        intro updated inOrder refusal post refuses after
        rw [Discipline.wp_monad_bind]
        refine wp_insertAsset (fun error => refuses error store (.refl holds))
          (fun last => ?_) fun last same present => ?_
        · exact concludes_rollback (completes_absorbed (completes_pure _))
            refusal post refuses after
        · refine Concludes.quiet holds (within_enqueueReceiptJob fun _ => rfl)
            (fun _ final further => ?_) refusal post refuses after
          refine concludes_commit_bind (inOrder _ (same.trans further) ?_)
            trivial (completes_pure _)
          exact fun _ => further.assets submissionId present

theorem completes_compensateOrphanObject :
    Completes (compensateOrphanObject environment accountId submissionId
      objectKey) := by
  have removes : Completes (do
      let _ ← (deleteObject environment.objectStoreError objectKey).attempt
      pure ()) := by
    refine Completes.attempt ?_ (fun _ => completes_pure _)
      fun _ => completes_pure _
    intro store holds
    exact Concludes.object holds (fun _ _ => trivial)
      (completes_pure () store holds)
  refine (OnlyReads.completes (within_query _ _)).attempt (fun asset => ?_)
    fun _ => removes
  cases asset with
  | none => exact removes
  | some asset => exact completes_pure _

theorem completes_ingest {bytes : List UInt8} {mimeType : String} :
    Completes (ingest environment accountId submissionId bytes mimeType
      extractJobId) := by
  refine .ask (within_query _ _) fun active => ?_
  split
  · refine .ask within_loadSubmission fun row => ?_
    refine .ask (within_query _ _) fun asset => ?_
    split
    · exact completes_pure _
    · split
      · exact completes_pure _
      · split
        · exact completes_refuse _
        · split
          · exact (completes_markFailure (Or.inr rfl)).bind
              fun _ => completes_refuse _
          · refine completes_absorbed fun store holds => ?_
            refine Concludes.object holds (fun _ _ => trivial) ?_
            refine Completes.attempt completes_persistStoredIngest
              (fun outcome => ?_) (fun error => ?_) store holds
            · cases outcome with
              | stored _ _ => exact completes_pure _
              | alreadyStored _ => exact completes_pure _
              | duplicateAbsorbed _ _ =>
                  exact completes_compensateOrphanObject.bind
                    fun _ => completes_pure _
              | alreadyTerminal _ =>
                  exact completes_compensateOrphanObject.bind
                    fun _ => completes_pure _
            · exact completes_compensateOrphanObject.bind
                fun _ => completes_refuse _
  · exact completes_pure _

end Ingest

section Maintenance

variable {now : Timestamp} {objectStoreError : StoreError}

/-- Expiring reviews inside a transaction. -/
theorem wp_expireCandidates {refusal : ReceiptFailure → BotStore → Prop}
    {store : BotStore} {post : Nat → Overlay BotRow → BotStore → Prop}
    {candidates : List (Uuid × Uuid)} {own : Overlay BotRow}
    (refuses : ∀ error, refusal (.refused error) store)
    (progress : ReceiptProgress store (own.view store))
    (after : ∀ count last, ReceiptProgress store (last.view store) →
      post count last store) :
    (receiptRules refusal).wp (expireCandidates now candidates) own store
      post := by
  induction candidates generalizing own post with
  | nil => exact after 0 own progress
  | cons candidate candidates ih =>
      obtain ⟨submissionId, accountId⟩ := candidate
      have continues (expired : Bool) (last : Overlay BotRow)
          (inOrder : ReceiptProgress store (last.view store)) :
          (receiptRules refusal).wp (do
            let others ← expireCandidates now candidates
            pure (if expired then others + 1 else others)) last store
            post := by
        rw [Discipline.wp_monad_bind]
        exact ih inOrder fun count final ordered => after _ final ordered
      unfold expireCandidates
      rw [Discipline.wp_monad_bind]
      unfold expireReview
      rw [Discipline.wp_monad_bind]
      refine Discipline.wp_selectForUpdate (refuses _)
        (continues false own progress) fun _ _ _ => ?_
      dsimp only
      rw [Discipline.wp_monad_bind]
      refine wp_loadSubmissionForUpdate (refuses _) (refuses _)
        fun row present _ => ?_
      split
      · exact continues false own progress
      · rename_i inReview
        have isReview : row.state = .reviewRequired := by simpa using inReview
        rw [← isReview, Discipline.wp_monad_bind]
        refine wp_move refuses progress present (by simp) (by simp) (by simp)
          fun updated inOrder _ => ?_
        exact continues true _ (inOrder _ (.refl _) (by simp))

theorem completes_expireReviews {batchLimit : Int}
    {candidates : List (Uuid × Uuid)} :
    Completes (expireReviews now batchLimit candidates) := by
  unfold expireReviews
  split
  · exact completes_refuse _
  · intro store holds refusal post refuses after
    rw [Discipline.wp_monad_bind]
    refine wp_expireCandidates (fun error => refuses error store (.refl holds))
      (.refl holds) fun count last progress => ?_
    have concludes : Concludes last store
        (do commit .expireReviews; pure count) :=
      concludes_commit_bind progress trivial (completes_pure _)
    exact concludes refusal post refuses after

theorem completes_deleteOriginal {accountId submissionId : Uuid} :
    Completes (deleteOriginal now objectStoreError accountId
      submissionId) := by
  have finishes {store : BotStore} {own : Overlay BotRow}
      (holds : ReceiptInvariant store)
      (progress : ReceiptProgress store (own.view store)) :
      Concludes own store (deleteOriginal.finish now submissionId) := by
    intro refusal post refuses after
    unfold deleteOriginal.finish
    rw [Discipline.wp_monad_bind]
    refine wp_markAssetDeleted (fun error => refuses error store
      (.refl holds)) fun last same => ?_
    refine concludes_commit (progress.undisturbed same) ?_ refusal post
      refuses after
    trivial
  refine .ask (within_query _ _) fun asset => ?_
  cases asset with
  | none => exact completes_refuse _
  | some asset =>
      dsimp only
      split
      · exact completes_pure _
      · intro store holds
        refine Concludes.object holds (fun _ _ => trivial) ?_
        refine .load holds fun row present => ?_
        split
        · exact finishes holds (.refl holds)
        · split
          · refine .move holds (.refl holds) present (by simp) (by simp)
              (by simp) fun updated inOrder => ?_
            exact finishes holds (inOrder _ (.refl _) (by simp))
          · exact concludes_refuse holds _

theorem wp_sweepCandidates {refusal : ReceiptFailure → BotStore → Prop}
    {store : BotStore} {own : Overlay BotRow}
    {post : List (Uuid × String) → Overlay BotRow → BotStore → Prop}
    {candidates : List Uuid}
    (refuses : ∀ error, refusal (.refused error) store)
    (after : ∀ rows, post rows own store) :
    (receiptRules refusal).wp (sweepCandidates now candidates) own store
      post := by
  induction candidates generalizing post with
  | nil => exact after []
  | cons submissionId candidates ih =>
      unfold sweepCandidates
      rw [Discipline.wp_monad_bind]
      refine Discipline.wp_query (refuses _) fun _ _ => ?_
      rw [Discipline.wp_monad_bind]
      refine Discipline.wp_selectForUpdate (refuses _) ?_ fun _ _ _ => ?_
      · rw [Discipline.wp_monad_bind]
        exact ih fun rows => after rows
      · rw [Discipline.wp_monad_bind]
        exact ih fun rows => after _

theorem concludes_deleteObjects {Value : Type} {store : BotStore}
    {own : Overlay BotRow} {objectKeys : List String}
    {rest : Unit → Operation Value} (holds : ReceiptInvariant store)
    (concludes : Concludes own store (rest ())) :
    Concludes own store
      (deleteObjects objectStoreError objectKeys >>= rest) := by
  induction objectKeys with
  | nil => exact concludes
  | cons objectKey objectKeys ih =>
      change Concludes own store (do
        deleteObject objectStoreError objectKey
        deleteObjects objectStoreError objectKeys >>= rest)
      exact Concludes.object holds (fun _ _ => trivial) ih

theorem wp_markAssetsDeleted {refusal : ReceiptFailure → BotStore → Prop}
    {store : BotStore} {own : Overlay BotRow}
    {post : Unit → Overlay BotRow → BotStore → Prop}
    {submissionIds : List Uuid}
    (refuses : ∀ error, refusal (.refused error) store)
    (after : ∀ last, ReceiptsUndisturbed (own.view store) (last.view store) →
      post () last store) :
    (receiptRules refusal).wp (markAssetsDeleted now submissionIds) own store
      post := by
  induction submissionIds generalizing own with
  | nil => exact after own (.refl _)
  | cons submissionId submissionIds ih =>
      unfold markAssetsDeleted
      rw [Discipline.wp_monad_bind]
      refine wp_markAssetDeleted refuses fun last same => ?_
      exact ih fun final further => after final (same.trans further)

theorem completes_retentionSweep {batchLimit : Int}
    {candidates : List Uuid} :
    Completes (retentionSweep now objectStoreError batchLimit
      candidates) := by
  unfold retentionSweep
  split
  · exact completes_refuse _
  · intro store holds refusal post refuses after
    rw [Discipline.wp_monad_bind]
    refine wp_sweepCandidates (fun error => refuses error store (.refl holds))
      fun rows => ?_
    refine concludes_deleteObjects holds ?_ refusal post refuses after
    intro refusal post refuses after
    rw [Discipline.wp_monad_bind]
    refine wp_markAssetsDeleted (fun error => refuses error store
      (.refl holds)) fun last same => ?_
    have concludes : Concludes last store
        (do commit .retentionSweep; pure rows.length) :=
      concludes_commit_bind (.undisturbed (.refl holds) same) trivial
        (completes_pure _)
    exact concludes refusal post refuses after

end Maintenance

end Receipts

end ZaloBot
