import ZaloBot.DispatchReports

/-!
# Failed reads end a dispatch with a retry

The operations of an execution report their failed reads as errors that are
tried again.  A dispatch whose failed reads all stand in such operations
therefore fails with a retryable class or gives its lease up.
-/

namespace ZaloBot

open Sessions

namespace Executions

open Receipts Workers

section Extractions

variable {accountId submissionId : Uuid} {now : Timestamp}
variable {allowed : DispatchPlace → Prop} {place : DispatchPlace}
variable {failed : Bool} {own : Overlay BotRow} {store : BotStore}

/-- The submission is being extracted. -/
def IsExtracting (accountId submissionId : Uuid) (store : BotStore) : Prop :=
  ∃ row : SubmissionRow, store (.submission submissionId) = some row ∧
    row.accountId = accountId ∧ row.state = .extracting

theorem IsExtracting.beside {key : BotKey} {row : Option (BotRow key)}
    (extracting : IsExtracting accountId submissionId store)
    (other : BotKey.submission submissionId ≠ key) :
    IsExtracting accountId submissionId
      ((Overlay.none.set key row).view store) := by
  obtain ⟨submission, present, isOf, isExtracting⟩ := extracting
  refine ⟨submission, ?_, isOf, isExtracting⟩
  rw [Overlay.set_view_other other]
  exact present

theorem holds_loadSubmissionForUpdate {row : SubmissionRow}
    {post : Except ReceiptFailure SubmissionRow → Bool → Overlay BotRow →
      BotStore → Prop}
    (present : own.view store (.submission submissionId) = some row)
    (isOf : row.accountId = accountId)
    (found : post (.ok row) failed own store)
    (reported : ∀ error, IsTransient error → post (.error error) true own
      store) :
    ((loadSubmissionForUpdate submissionId accountId :
      Operation _).placed place).holds allowed failed own store post := by
  unfold loadSubmissionForUpdate
  rw [Placed.placed_bind]
  refine Placed.holds_bind ⟨?_, fun _ => reported _ rfl⟩
  have selected : (own.view store (.submission submissionId)).filter
      (·.accountId = accountId) = some row := by
    simp [present, isOf]
  simp only [Session.placed, Placed.holds, selected]
  exact found

theorem holds_transitionState {row : SubmissionRow}
    {current next : ReceiptState} {failureErrorClass : Option String}
    {post : Except ReceiptFailure Unit → Bool → Overlay BotRow →
      BotStore → Prop}
    (present : own.view store (.submission submissionId) = some row)
    (isOf : row.accountId = accountId) (isCurrent : row.state = current)
    (may : canTransition current next = true)
    (changed : ∀ row : SubmissionRow, row.accountId = accountId →
      row.state = next → post (.ok ()) failed
        (own.set (.submission submissionId) (some row)) store)
    (violated : post (.error .checkViolated) failed own store)
    (reported : ∀ error, IsTransient error → post (.error error) true own
      store) :
    ((transitionState now submissionId accountId current next
      failureErrorClass none none none : Operation _).placed place).holds
        allowed failed own store post := by
  unfold transitionState
  rw [if_pos may, Placed.placed_bind]
  refine Placed.holds_bind ⟨?_, fun _ => reported _ rfl⟩
  have selected : (own.view store (.submission submissionId)).filter
      (fun row => row.accountId = accountId && row.state = current) =
        some row := by
    simp [present, isOf, isCurrent]
  simp only [Session.placed, Placed.holds, selected]
  split
  · exact changed _ isOf rfl
  · exact violated

/-- A failed read ends a session with an error that is tried again. -/
def reportsEnd {Value : Type} (outcome : Except ReceiptFailure Value)
    (failed : Bool) : Prop :=
  failed = true → ∃ error, outcome = .error error ∧ IsTransient error

theorem holds_of_reports {Event Value : Type}
    {session : Statement Event Value}
    (reports : session.Reports IsTransient) :
    (session.placed place).holds allowed false own store
      fun outcome failed _ _ => reportsEnd outcome failed :=
  reports.holds (fun _ _ _ => nofun)
    fun error _ _ isTransient _ => ⟨error, rfl, isTransient⟩

/-- A claimed extraction leaves the submission in extraction. -/
theorem holds_claimExtracting :
    ((claimExtracting now accountId submissionId).placed place).holds allowed
      false Overlay.none store fun outcome failed own after =>
        reportsEnd outcome failed ∧ (outcome = .ok none →
          own = Overlay.none ∧ IsExtracting accountId submissionId after) := by
  have reported : ∀ (error : ReceiptFailure), IsTransient error →
      reportsEnd (.error error : Except ReceiptFailure (Option ExtractOutcome))
        true :=
    fun error isTransient _ => ⟨error, rfl, isTransient⟩
  cases found : (store (.submission submissionId)).filter
      (·.accountId = accountId) with
  | none =>
      unfold claimExtracting loadSubmissionForUpdate
      rw [Placed.placed_bind, Placed.placed_bind]
      refine Placed.holds_bind (Placed.holds_bind ⟨?_, fun _ =>
        ⟨reported _ rfl, by rintro ⟨⟩⟩⟩)
      simp only [Session.placed, Placed.holds, Overlay.none_view, found]
      exact ⟨by rintro ⟨⟩, by rintro ⟨⟩⟩
  | some row =>
      obtain ⟨present, isOf⟩ := Option.filter_eq_some_iff.mp found
      have isOf : row.accountId = accountId := by simpa using isOf
      unfold claimExtracting
      rw [Placed.placed_bind]
      refine Placed.holds_bind (holds_loadSubmissionForUpdate present isOf ?_
        fun error isTransient => ⟨reported error isTransient, by rintro ⟨⟩⟩)
      dsimp only
      split
      · exact ⟨by rintro ⟨⟩, by rintro ⟨⟩⟩
      split
      · exact ⟨by rintro ⟨⟩, by rintro ⟨⟩⟩
      split
      · rename_i ready
        rw [Placed.placed_bind]
        refine Placed.holds_bind (holds_transitionState present isOf rfl
          (by rcases ready with ready | ready <;> rw [ready] <;> rfl) ?_
          ⟨by rintro ⟨⟩, by rintro ⟨⟩⟩
          fun error isTransient =>
            ⟨reported error isTransient, by rintro ⟨⟩⟩)
        intro next nextOf extracting
        refine ⟨by rintro ⟨⟩, fun _ => ⟨rfl, next, ?_, nextOf, extracting⟩⟩
        exact Overlay.set_view_self _ _ _ _
      split
      · rename_i extracting
        exact ⟨by rintro ⟨⟩, fun _ => ⟨rfl, row, present, isOf, extracting⟩⟩
      · exact ⟨by rintro ⟨⟩, by rintro ⟨⟩⟩

/-- The failure of an extraction is recorded, or the recording is tried
again. -/
theorem holds_persistExtractionFailure {errorClass : ErrorClass}
    {terminalState : ReceiptState}
    (extracting : IsExtracting accountId submissionId store)
    (may : canTransition .extracting terminalState = true) :
    ((persistExtractionFailure now accountId submissionId errorClass
      terminalState).placed place).holds allowed failed Overlay.none store
        fun outcome after _ _ =>
          (∃ error, outcome = .error error ∧ IsTransient error) ∨
            (outcome = .ok () ∧ after = failed) := by
  obtain ⟨row, present, isOf, isExtracting⟩ := extracting
  have reported : ∀ (error : ReceiptFailure), IsTransient error →
      ∃ reported, (.error error : Except ReceiptFailure Unit) =
        .error reported ∧ IsTransient reported :=
    fun error isTransient => ⟨error, rfl, isTransient⟩
  unfold persistExtractionFailure
  rw [Placed.placed_bind]
  refine Placed.holds_bind (holds_loadSubmissionForUpdate present isOf ?_
    fun error isTransient => .inl (reported error isTransient))
  dsimp only
  rw [if_neg (not_not.mpr isExtracting)]
  refine Placed.holds_query ?_ (.inl (reported _ rfl))
  refine Placed.holds_upsertRow (fun attempts => ?_) (.inl (reported _ rfl))
  rw [Placed.placed_bind]
  refine Placed.holds_bind (holds_transitionState ?_ isOf isExtracting may
    ?_ (.inl (reported _ rfl))
    fun error isTransient => .inl (reported error isTransient))
  · have other : BotKey.submission submissionId ≠
        .extractionAttempts submissionId := nofun
    rw [Overlay.set_view_other other]
    exact present
  · exact fun _ _ _ => .inr ⟨rfl, rfl⟩

theorem holds_readAndExtract {environment : ExtractEnvironment}
    {post : Except ReceiptFailure ExtractionResult → Bool → Overlay BotRow →
      BotStore → Prop}
    (transientStore :
      isRetryable environment.objectStoreError.errorClass = true)
    (succeeded : ∀ outcome, post outcome false own store)
    (reported : ∀ error, IsTransient error → post (.error error) true own
      store) :
    ((readAndExtract environment accountId submissionId).placed place).holds
      allowed false own store post := by
  refine Placed.holds_query ?_ (reported _ rfl)
  split
  · exact succeeded _
  refine Placed.holds_query ?_ (reported _ transientStore)
  split
  · exact succeeded _
  split <;> exact succeeded _

theorem failureStateFor_follows_extracting (errorClass : ErrorClass) :
    canTransition .extracting (failureStateFor errorClass) = true := by
  cases errorClass <;> rfl

theorem holds_extractClaimed {config : ReceiptConfig}
    {environment : ExtractEnvironment}
    (transientStore :
      isRetryable environment.objectStoreError.errorClass = true)
    (extracting : IsExtracting accountId submissionId store) :
    ((extractClaimed config environment accountId submissionId).placed
      place).holds allowed false Overlay.none store
        fun outcome failed _ _ => reportsEnd outcome failed := by
  unfold extractClaimed
  rw [Placed.placed_bind, Placed.placed_attempt]
  refine Placed.holds_bind (Placed.holds_attempt
    (holds_readAndExtract transientStore ?_ ?_))
  · intro outcome
    cases outcome with
    | ok extraction =>
        dsimp only [Placed.attempted]
        split
        · exact holds_of_reports
            (.bind reports_persistExtractionFailure fun _ => trivial)
        · exact holds_of_reports reports_persistExtractionSuccess
    | error error =>
        exact holds_of_reports
          (.bind reports_persistExtractionFailure fun _ => trivial)
  · intro error isTransient
    dsimp only [Placed.attempted]
    rw [Placed.placed_bind]
    refine Placed.holds_bind (Placed.holds_mono
      (holds_persistExtractionFailure extracting
        (failureStateFor_follows_extracting _)) ?_)
    rintro outcome failed own store (⟨reported, rfl, retried⟩ | ⟨rfl, -⟩)
    · exact fun _ => ⟨reported, rfl, retried⟩
    · exact fun _ => ⟨error, rfl, isTransient⟩

/-- An extraction reports its failed reads. -/
theorem holds_extract {config : ReceiptConfig}
    {environment : ExtractEnvironment}
    (transientStore :
      isRetryable environment.objectStoreError.errorClass = true) :
    ((extract config environment accountId submissionId).placed place).holds
      allowed false Overlay.none store
        fun outcome failed _ _ => reportsEnd outcome failed := by
  unfold extract
  rw [Placed.placed_bind]
  refine Placed.holds_bind (Placed.holds_mono holds_claimExtracting ?_)
  rintro outcome failed own store ⟨reported, claimed⟩
  rcases outcome with error | _ | outcome
  · intro hasFailed
    obtain ⟨_, same, isTransient⟩ := reported hasFailed
    exact ⟨error, rfl, by cases same; exact isTransient⟩
  · obtain ⟨rfl, extracting⟩ := claimed rfl
    have unharmed : failed = false := by
      cases failed with
      | false => rfl
      | true => exact absurd (reported rfl) (by simp)
    subst unharmed
    refine Placed.holds_query ?_ fun _ => ⟨_, rfl, rfl⟩
    split
    · split
      · rw [Placed.placed_bind]
        refine Placed.holds_bind ⟨?_, fun _ _ => ⟨_, rfl, rfl⟩⟩
        refine Placed.holds_commitTransaction
          (.dependency "quota commit failed") .extractionQuota ?_
        split
        · exact holds_of_reports
            (.bind reports_persistExtractionFailure fun _ => trivial)
        · exact holds_extractClaimed transientStore
            (extracting.beside (by simp))
      · exact holds_of_reports
          (.bind reports_persistExtractionFailure fun _ => trivial)
    · rintro ⟨⟩
  · intro hasFailed
    obtain ⟨_, same, -⟩ := reported hasFailed
    contradiction

end Extractions

end Executions

namespace OutboundJobExecution

/-- The job is tried again, by this worker or by the one that holds the
lease. -/
def isRetried : OutboundJobExecution → Bool
  | .fail errorClass => isRetryable errorClass
  | .staleLease => true
  | .complete _ | .invalidJob => false

end OutboundJobExecution

namespace Executions

open Receipts Workers

section Dispatches

variable {allowed : DispatchPlace → Prop} {store : BotStore}
variable {own : Overlay BotRow} {job : ClaimedJob}

/-- A dispatch returns, and if a read has failed then it is tried again. -/
def endsHonestly (outcome : Except ReceiptFailure OutboundJobExecution)
    (failed : Bool) : Prop :=
  ∃ execution, outcome = .ok execution ∧
    (failed = true → execution.isRetried = true)

theorem endsHonestly_unharmed (execution : OutboundJobExecution) :
    endsHonestly (.ok execution) false :=
  ⟨execution, rfl, nofun⟩

theorem endsHonestly_retried {execution : OutboundJobExecution}
    {failed : Bool} (isRetried : execution.isRetried = true) :
    endsHonestly (.ok execution) failed :=
  ⟨execution, rfl, fun _ => isRetried⟩

/-- What a dispatch makes of the end of an operation that reports its failed
reads. -/
theorem holds_attempt_reports {Event Value : Type}
    {session : Statement Event Value}
    {rest : Except ReceiptFailure Value →
      Placed DispatchPlace BotRow Event ReceiptFailure OutboundJobExecution}
    (verified : (session.placed .execution).holds allowed false own store
      fun outcome failed _ _ => reportsEnd outcome failed)
    (succeeded : ∀ outcome own store, (rest outcome).holds allowed false own
      store fun outcome failed _ _ => endsHonestly outcome failed)
    (reported : ∀ error own store, IsTransient error →
      (rest (.error error)).holds allowed true own store
        fun outcome failed _ _ => endsHonestly outcome failed) :
    ((session.placed .execution).attempt >>= rest).holds allowed false own
      store fun outcome failed _ _ => endsHonestly outcome failed := by
  refine Placed.holds_bind (Placed.holds_attempt
    (Placed.holds_mono verified ?_))
  intro outcome failed own store reports
  cases failed with
  | false => exact succeeded _ _ _
  | true =>
      obtain ⟨error, rfl, isTransient⟩ := reports rfl
      exact reported error _ _ isTransient

theorem holds_bind_reports {Event Value Other : Type}
    {session : Statement Event Value}
    {rest : Value → Placed DispatchPlace BotRow Event ReceiptFailure Other}
    (reports : session.Reports IsTransient)
    (continued : ∀ value own store, (rest value).holds allowed false own
      store fun outcome failed _ _ => reportsEnd outcome failed) :
    (session.placed .execution >>= rest).holds allowed false own store
      fun outcome failed _ _ => reportsEnd outcome failed := by
  refine Placed.holds_bind (reports.holds (fun outcome own store => ?_) ?_)
  · cases outcome with
    | ok value => exact continued value own store
    | error error => exact nofun
  · exact fun error _ _ isTransient _ => ⟨error, rfl, isTransient⟩

/-- The check for an orphan never fails an ingest. -/
theorem holds_compensateOrphanObject {environment : IngestEnvironment}
    {accountId submissionId : Uuid} {objectKey : String} {failed : Bool}
    {post : Except ReceiptFailure Unit → Bool → Overlay BotRow → BotStore →
      Prop}
    (checked : ¬ allowed .orphanCheck)
    (ended : ∀ own store, post (.ok ()) failed own store) :
    ((compensateOrphanObject environment accountId submissionId
      objectKey).placed .orphanCheck).holds allowed failed own store
        post := by
  unfold compensateOrphanObject
  rw [Placed.placed_bind, Placed.placed_attempt]
  refine Placed.holds_bind (Placed.holds_attempt
    ⟨?_, fun may => absurd may checked⟩)
  simp only [Session.placed, Placed.holds]
  split <;> exact ended _ _

/-- An ingest reports its failed reads, except for the check for an
orphan. -/
theorem holds_placedIngest {environment : IngestEnvironment}
    {accountId submissionId extractJobId : Uuid} {bytes : List UInt8}
    {mimeType : String} (checked : ¬ allowed .orphanCheck) :
    (placedIngest environment accountId submissionId bytes mimeType
      extractJobId).holds allowed false own store
        fun outcome failed _ _ => reportsEnd outcome failed := by
  refine holds_bind_reports (Session.reports_query rfl) fun active _ _ => ?_
  cases active with
  | false => exact nofun
  | true =>
      refine holds_bind_reports reports_loadSubmission fun row _ _ => ?_
      refine holds_bind_reports (Session.reports_query rfl)
        fun asset _ _ => ?_
      split
      · exact nofun
      split
      · exact nofun
      split
      · exact nofun
      split
      · exact holds_bind_reports reports_markFailure fun _ _ _ => nofun
      refine holds_bind_reports (Session.reports_query rfl)
        fun original _ _ => ?_
      split
      · exact holds_bind_reports reports_absorbDuplicate fun _ _ _ => nofun
      refine holds_bind_reports trivial fun _ _ _ => ?_
      refine Placed.holds_bind (Placed.holds_attempt
        (reports_persistStoredIngest.holds ?_ ?_))
      · intro outcome _ _
        dsimp only
        split
        · exact nofun
        · exact nofun
        · exact Placed.holds_bind
            (holds_compensateOrphanObject checked fun _ _ => nofun)
        · exact Placed.holds_bind
            (holds_compensateOrphanObject checked fun _ _ => nofun)
      · intro error _ _ isTransient
        exact Placed.holds_bind (holds_compensateOrphanObject checked
          fun _ _ _ => ⟨error, rfl, isTransient⟩)

/-- The places whose failures are reported. -/
abbrev reportedPlaces (place : DispatchPlace) : Prop :=
  place.isReported = true

/-- A part whose errors are discarded and whose reads do not fail. -/
theorem holds_discarded {Event Value : Type} {place : DispatchPlace}
    {session : Statement Event Value}
    {rest : Except ReceiptFailure Value →
      Placed DispatchPlace BotRow Event ReceiptFailure OutboundJobExecution}
    (reliable : ¬ reportedPlaces place)
    (continued : ∀ outcome own store, (rest outcome).holds reportedPlaces
      false own store fun outcome failed _ _ => endsHonestly outcome failed) :
    ((session.placed place).attempt >>= rest).holds reportedPlaces false own
      store fun outcome failed _ _ => endsHonestly outcome failed :=
  Placed.holds_bind (Placed.holds_attempt (Placed.holds_placed_reliable
    reliable fun _ _ _ => continued _ _ _))

/-- A lookup that does not fail. -/
theorem holds_lookup {Event Value : Type} {place : DispatchPlace}
    {ask : BotStore → Value}
    {whenFailed : Placed DispatchPlace BotRow Event ReceiptFailure Value}
    {rest : Value →
      Placed DispatchPlace BotRow Event ReceiptFailure OutboundJobExecution}
    (reliable : ¬ reportedPlaces place)
    (continued : ∀ value, (rest value).holds reportedPlaces false own store
      fun outcome failed _ _ => endsHonestly outcome failed) :
    (Placed.read place (fun view => .done (ask view)) whenFailed >>=
      rest).holds reportedPlaces false own store
        fun outcome failed _ _ => endsHonestly outcome failed :=
  ⟨continued _, fun may => absurd may reliable⟩

theorem holds_placedFailure {environment : WorkEnvironment}
    {accountId submissionId : Uuid} {errorClass : ErrorClass}
    {execution : OutboundJobExecution} :
    (placedFailure environment job accountId submissionId errorClass >>=
      fun _ => pure execution).holds reportedPlaces false own store
        fun outcome failed _ _ => endsHonestly outcome failed := by
  refine Placed.holds_bind (Placed.holds_bind (Placed.holds_attempt
    (Placed.holds_placed_reliable (by decide) fun _ _ _ => ?_)))
  refine Placed.holds_bind (Placed.holds_attempt
    (Placed.holds_placed_reliable (by decide) fun _ _ _ => ?_))
  exact endsHonestly_unharmed execution

theorem holds_placedReceiptIngest {environment : WorkEnvironment} :
    (placedReceiptIngest environment job).holds reportedPlaces false own
      store fun outcome failed _ _ => endsHonestly outcome failed := by
  unfold placedReceiptIngest
  split
  · exact endsHonestly_unharmed _
  split
  · exact endsHonestly_unharmed _
  refine holds_lookup (by decide) fun media => ?_
  rcases media with _ | ⟨accountId, mediaUrl⟩
  · exact endsHonestly_unharmed _
  · dsimp only
    split
    · split
      · exact holds_placedFailure
      · exact endsHonestly_unharmed _
    · refine Placed.holds_bind (Placed.holds_attempt (Placed.holds_mapEvent
        (Placed.holds_mono (holds_placedIngest (by decide)) ?_)))
      intro outcome failed _ _ reports
      cases failed with
      | false =>
          cases outcome with
          | ok outcome => exact endsHonestly_unharmed _
          | error error =>
              dsimp only
              split
              · exact holds_placedFailure
              · exact endsHonestly_unharmed _
      | true =>
          obtain ⟨error, rfl, isTransient⟩ := reports rfl
          dsimp only
          rw [if_neg]
          · exact endsHonestly_retried isTransient
          · rintro (permanent | permanent) <;>
              simp [IsTransient, permanent, isRetryable] at isTransient

theorem holds_placedExtractionFailure {environment : WorkEnvironment}
    {accountId submissionId : Uuid} {errorClass : ErrorClass} :
    (placedExtractionFailure environment job accountId submissionId
      errorClass).holds reportedPlaces false own store
        fun outcome failed _ _ => endsHonestly outcome failed :=
  holds_discarded (by decide) fun _ _ _ => endsHonestly_unharmed _

/-- What the user is told about is not tried again. -/
theorem not_isReportedExtractionFailure {errorClass : ErrorClass}
    (retryable : isRetryable errorClass = true) :
    isReportedExtractionFailure errorClass = false := by
  cases errorClass <;> first | rfl | contradiction

theorem holds_reviewFollowup {environment : WorkEnvironment}
    {accountId submissionId : Uuid} :
    (((Followups.enqueueReceiptReviewFollowup (leased job .reviewFollowup)
      environment.followup environment.config.reviewExpiryHours accountId
      submissionId).placed .execution).attempt >>= fun followup =>
        match followup with
        | .error _ => pure (.fail .dependency)
        | .ok _ => pure receiptJobComplete).holds reportedPlaces false own
          store fun outcome failed _ _ => endsHonestly outcome failed := by
  refine holds_attempt_reports
    (holds_of_reports reports_enqueueReceiptReviewFollowup)
    (fun outcome _ _ => ?_) fun _ _ _ _ => endsHonestly_retried rfl
  cases outcome <;> exact endsHonestly_unharmed _

theorem holds_placedAfterExtraction {environment : WorkEnvironment}
    {accountId submissionId : Uuid}
    {outcome : Except ReceiptFailure ExtractOutcome} :
    (placedAfterExtraction environment job accountId submissionId
      outcome).holds reportedPlaces false own store
        fun outcome failed _ _ => endsHonestly outcome failed := by
  unfold placedAfterExtraction
  split
  · exact holds_reviewFollowup
  · exact holds_reviewFollowup
  · exact endsHonestly_unharmed _
  · exact holds_placedExtractionFailure
  · dsimp only
    split
    · exact holds_placedExtractionFailure
    · exact endsHonestly_unharmed _

theorem holds_placedReceiptExtract {environment : WorkEnvironment}
    (transientStore :
      isRetryable environment.extract.objectStoreError.errorClass = true) :
    (placedReceiptExtract environment job).holds reportedPlaces false
      Overlay.none store
        fun outcome failed _ _ => endsHonestly outcome failed := by
  unfold placedReceiptExtract
  split
  · exact endsHonestly_unharmed _
  split
  · exact endsHonestly_unharmed _
  refine holds_lookup (by decide) fun account => ?_
  cases account with
  | none => exact endsHonestly_unharmed _
  | some accountId =>
      refine holds_attempt_reports ?_ ?_ ?_
      · unfold onReceipts
        rw [Placed.placed_mapEvent]
        exact Placed.holds_mapEvent (holds_extract transientStore)
      · exact fun _ _ _ => holds_placedAfterExtraction
      · intro error _ _ isTransient
        simp only [placedAfterExtraction,
          not_isReportedExtractionFailure isTransient]
        exact endsHonestly_retried isTransient

theorem holds_dispatchScheduleEmit {environment : SummaryEnvironment} :
    (dispatchScheduleEmit environment job).holds reportedPlaces false own
      store fun outcome failed _ _ => endsHonestly outcome failed := by
  unfold dispatchScheduleEmit
  split
  · exact endsHonestly_unharmed _
  refine holds_lookup (by decide) fun account => ?_
  split
  · exact endsHonestly_unharmed _
  split
  · exact endsHonestly_unharmed _
  refine holds_lookup (by decide) fun schedule => ?_
  split
  · exact endsHonestly_unharmed _
  split
  · exact endsHonestly_unharmed _
  refine holds_lookup (by decide) fun totals => ?_
  refine holds_attempt_reports (holds_of_reports reports_enqueueSummary)
    (fun outcome _ _ => ?_) fun _ _ _ _ => endsHonestly_retried rfl
  cases outcome <;> exact endsHonestly_unharmed _

theorem accountExecution_isRetried {error : ReceiptFailure}
    (isTransient : IsTransient error) :
    (accountExecution (.error error)).isRetried = true := by
  unfold accountExecution
  dsimp only
  rw [if_neg]
  · exact isTransient
  · intro permanent
    simp [IsTransient, permanent, isRetryable] at isTransient

theorem holds_dispatchAccountDelete {environment : AccountEnvironment} :
    (dispatchAccountDelete environment job).holds reportedPlaces false own
      store fun outcome failed _ _ => endsHonestly outcome failed := by
  unfold dispatchAccountDelete
  dsimp only
  split
  · exact endsHonestly_unharmed _
  split
  · exact endsHonestly_unharmed _
  exact holds_attempt_reports (holds_of_reports reports_executeAccountDelete)
    (fun _ _ _ => endsHonestly_unharmed _)
    fun _ _ _ isTransient =>
      endsHonestly_retried (accountExecution_isRetried isTransient)

theorem holds_dispatchAccountExport {environment : AccountEnvironment} :
    (dispatchAccountExport environment job).holds reportedPlaces false own
      store fun outcome failed _ _ => endsHonestly outcome failed := by
  unfold dispatchAccountExport
  dsimp only
  split
  · exact endsHonestly_unharmed _
  split
  · exact endsHonestly_unharmed _
  exact holds_attempt_reports (holds_of_reports reports_executeAccountExport)
    (fun _ _ _ => endsHonestly_unharmed _)
    fun _ _ _ isTransient =>
      endsHonestly_retried (accountExecution_isRetried isTransient)

theorem holds_dispatchInsightNarrate {dispatch : NarrateDispatch} :
    (dispatchInsightNarrate dispatch job).holds reportedPlaces false own store
      fun outcome failed _ _ => endsHonestly outcome failed := by
  unfold dispatchInsightNarrate
  split
  · split
    · exact endsHonestly_unharmed _
    refine holds_attempt_reports (holds_of_reports reports_narrateSnapshot)
      (fun outcome _ _ => ?_) fun _ _ _ _ => endsHonestly_retried rfl
    cases outcome <;> exact endsHonestly_unharmed _
  · exact endsHonestly_unharmed _

/-- A dispatch whose failed reads are all reported ends with a retry. -/
theorem holds_dispatchLeasedJob {environment : DispatchEnvironment} :
    (dispatchLeasedJob environment job).holds reportedPlaces false
      Overlay.none store
        fun outcome failed _ _ => endsHonestly outcome failed := by
  unfold dispatchLeasedJob
  split
  · refine holds_attempt_reports (holds_of_reports reports_deliverForJob)
      (fun outcome _ _ => ?_) fun _ _ _ _ => endsHonestly_retried rfl
    cases outcome <;> exact endsHonestly_unharmed _
  split
  · exact Placed.holds_mapEvent holds_placedReceiptIngest
  split
  · exact Placed.holds_mapEvent
      (holds_placedReceiptExtract environment.transientStore)
  split
  · exact holds_dispatchScheduleEmit
  split
  · exact holds_dispatchAccountDelete
  split
  · exact holds_dispatchAccountExport
  split
  · exact holds_dispatchInsightNarrate
  · exact endsHonestly_unharmed _

end Dispatches

section Runs

/-- A dispatch on a database, with a pattern of failed reads. -/
def dispatched (environment : DispatchEnvironment) (job : ClaimedJob)
    (store : BotStore) (faults : List Bool) :
    Placed.Evaluation DispatchPlace BotRow ReceiptFailure
      OutboundJobExecution :=
  (dispatchLeasedJob environment job).evaluate Overlay.none store faults

/-- A dispatch in which a read has failed is tried again, and a summary whose
totals could not be read is not queued. -/
def FailuresAreHonest (store : BotStore)
    (run : Placed.Evaluation DispatchPlace BotRow ReceiptFailure
      OutboundJobExecution) : Prop :=
  (run.failures ≠ [] → ∃ execution, run.outcome = .ok execution ∧
    execution.isRetried = true) ∧
  (.periodTotals ∈ run.failures → ∀ idempotencyKey,
    run.store (.outbound idempotencyKey) = store (.outbound idempotencyKey))

/-- The first read of the job is a lookup whose failure is taken for an absent
row. -/
def opensWithLookup (environment : DispatchEnvironment) (job : ClaimedJob) :
    Prop :=
  (job.jobType = jobTypeIngest ∧ ∃ submissionId,
    parseReceiptSubmissionId job jobTypeIngest = some submissionId ∧
      job.dedupeKey = ingestDedupeKey submissionId) ∨
  (job.jobType = jobTypeExtract ∧ ∃ submissionId,
    parseReceiptSubmissionId job jobTypeExtract = some submissionId ∧
      job.dedupeKey = extractDedupeKey submissionId) ∨
  (job.jobType = "schedule.emit" ∧
    (acceptedSummary environment.summary job).isSome = true)

variable {environment : DispatchEnvironment} {job : ClaimedJob}
variable {store : BotStore} {faults : List Bool}

/-- What such a dispatch does first. -/
theorem dispatchLeasedJob_opens (opens : opensWithLookup environment job) :
    ∃ place next execution, dispatchLeasedJob environment job =
        .read place next (.done execution) ∧ execution.isRetried = false := by
  unfold dispatchLeasedJob
  obtain ⟨isIngest, submissionId, parsed, deduped⟩ |
    ⟨isExtract, submissionId, parsed, deduped⟩ | ⟨isEmit, accepted⟩ := opens
  · rw [if_neg (by rw [isIngest]; decide), if_pos isIngest]
    simp only [placedReceiptIngest, parsed, deduped, ne_eq, not_true_eq_false,
      if_false]
    exact ⟨_, _, _, rfl, rfl⟩
  · rw [if_neg (by rw [isExtract]; decide),
      if_neg (by rw [isExtract]; decide), if_pos isExtract]
    simp only [placedReceiptExtract, parsed, deduped, ne_eq,
      not_true_eq_false, if_false]
    exact ⟨_, _, _, rfl, rfl⟩
  · rw [if_neg (by rw [isEmit]; decide), if_neg (by rw [isEmit]; decide),
      if_neg (by rw [isEmit]; decide), if_pos isEmit]
    obtain ⟨payload, accepts⟩ := Option.isSome_iff_exists.mp accepted
    simp only [dispatchScheduleEmit, accepts]
    exact ⟨_, _, _, rfl, rfl⟩

/-- Failed reads whose failures are reported end a dispatch with a retry; a
failed first lookup does not. -/
theorem failed_reads_are_retried (environment : DispatchEnvironment)
    (job : ClaimedJob) (store : BotStore) (faults : List Bool) :
    ((∀ place ∈ (dispatched environment job store faults).failures,
        place.isReported = true) →
      FailuresAreHonest store (dispatched environment job store faults)) ∧
    (opensWithLookup environment job → faults.headD false = true →
      ¬ FailuresAreHonest store
        (dispatched environment job store faults)) := by
  refine ⟨fun only => ⟨fun failed => ?_, fun unread => ?_⟩,
    fun opens fails honest => ?_⟩
  · obtain ⟨execution, returned, retried⟩ :=
      Placed.holds_evaluate holds_dispatchLeasedJob only
    have noticed : (!(dispatched environment job store
        faults).failures.isEmpty) = true := by
      simpa using failed
    exact ⟨execution, returned, retried noticed⟩
  · exact absurd (only _ unread) (by decide)
  · obtain ⟨place, next, execution, shape, unretried⟩ :=
      dispatchLeasedJob_opens opens
    have ended : dispatched environment job store faults =
        ⟨.ok execution, Overlay.none, store, faults.tail, [place]⟩ := by
      simp only [dispatched, shape, Placed.evaluate, fails]
      rfl
    rw [ended] at honest
    obtain ⟨other, returned, retried⟩ := honest.1 (by simp)
    cases returned
    simp [unretried] at retried

/-- A dispatch of the summary of a day with one expense. -/
def yesterday : DispatchEnvironment where
  receipts :=
    { options := ⟨1, "worker", 60⟩
      claimedAt := 200
      token := ⟨"token"⟩
      candidate := none
      mediaUrl := none
      download := fun _ => .error .timeout
      failedAt := 200
      ingest := ⟨200, fun _ _ => .error (.validation "not an image"),
        ⟨"asset"⟩, .dependency "object store failed"⟩
      extractJobId := ⟨"extract"⟩
      config := ⟨24, true, 10⟩
      extract := ⟨200, 200, ⟨"draft"⟩, "1970-01",
        fun _ => .error (.validation "no amount"),
        .dependency "object store failed"⟩
      followup := ⟨⟨200, true, 10, "1970-01", ⟨"outbound"⟩, ⟨"deliver"⟩⟩,
        ("zalo", "event"), fun _ _ => "review", fun _ _ => "failed"⟩
      otherExecution := .staleLease
      settledAt := 200 }
  deliver := ⟨200, fun text => some ⟨text⟩, "message", fun _ _ => .ok ⟨"m"⟩⟩
  summary :=
    { parseTimestamp := fun text =>
        if text = "start" then some 0
        else if text = "end" then some 100
        else none
      toRfc3339 := fun _ => "start"
      compactUtc := fun _ => "start"
      frequency := .daily
      expenses := [⟨"lunch"⟩]
      emptySummaryText := fun _ label => label ++ ": nothing"
      todaySummaryText := fun _ label currency totalMinor =>
        label ++ ": " ++ toString totalMinor ++ " " ++ currency
      outbound := ⟨200, true, 10, "1970-01", ⟨"outbound"⟩, ⟨"deliver"⟩⟩ }
  account := ⟨[], [], [], [], [], [], [], fun _ => [], fun _ => []⟩
  narrate := ⟨false, fun _ => .ok "narrative",
    ⟨⟨⟨"account"⟩, .day, 0, "UTC"⟩, 200, "1970-01", 10, true⟩⟩
  transientStore := rfl

def summaryJob : ClaimedJob where
  id := ⟨"job"⟩
  jobType := "schedule.emit"
  payload := ⟨some 1, [("account_id", "account"), ("schedule_id", "schedule"),
    ("frequency", "daily"), ("period_start", "start"),
    ("period_end", "end")]⟩
  payloadVersion := 1
  attemptNumber := 1
  leaseToken := ⟨"token"⟩
  leaseOwner := "worker"
  leaseDeadline := 300
  dedupeKey := "schedule.emit:account:daily:start"
  serializationKey := none

def dayWithLunch : BotStore
  | .account ⟨"account"⟩ =>
      some ⟨.active, some "v1", some 0, "vi", "UTC", 30, "VND"⟩
  | .summarySchedule ⟨"account"⟩ .daily =>
      some ⟨⟨"schedule"⟩, 480, "zalo_bot", "chat", true, 300, none⟩
  | .expense ⟨"lunch"⟩ =>
      some ⟨⟨"account"⟩, 50000, "VND", 50, "lunch", .manual, .confirmed, 1,
        none, "an-uong", "expense"⟩
  | _ => none

theorem failed_reads_are_retried_summary :
    (dispatched yesterday summaryJob dayWithLunch
        [false, false, false, true]).failures = [.execution] ∧
      FailuresAreHonest dayWithLunch (dispatched yesterday summaryJob
        dayWithLunch [false, false, false, true]) := by
  have failures : (dispatched yesterday summaryJob dayWithLunch
      [false, false, false, true]).failures = [.execution] := by
    decide
  refine ⟨failures, (failed_reads_are_retried yesterday summaryJob
    dayWithLunch [false, false, false, true]).1 ?_⟩
  rw [failures]
  simp [DispatchPlace.isReported]

/-- The totals of a day with an expense cannot be read, and the user is told
that nothing was spent. -/
theorem failed_totals_send_an_empty_summary :
    (dispatched yesterday summaryJob dayWithLunch
        [false, false, true]).failures = [.periodTotals] ∧
      (dispatched yesterday summaryJob dayWithLunch
        [false, false, true]).outcome = .ok receiptJobComplete ∧
      ((dispatched yesterday summaryJob dayWithLunch
        [false, false, true]).store (.outbound
          "scheduled-summary:account:daily:start")).map OutboundRow.body =
        some "Hôm qua: nothing" ∧
      ¬ FailuresAreHonest dayWithLunch (dispatched yesterday summaryJob
        dayWithLunch [false, false, true]) := by
  have failures : (dispatched yesterday summaryJob dayWithLunch
      [false, false, true]).failures = [.periodTotals] := by
    decide
  have outcome : (dispatched yesterday summaryJob dayWithLunch
      [false, false, true]).outcome = .ok receiptJobComplete := by
    decide
  refine ⟨failures, outcome, by decide, fun honest => ?_⟩
  obtain ⟨execution, returned, retried⟩ := honest.1 (by simp [failures])
  rw [outcome] at returned
  cases returned
  exact absurd retried (by decide)

end Runs

end Executions

end ZaloBot
