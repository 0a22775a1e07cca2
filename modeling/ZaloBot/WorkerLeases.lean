import ZaloBot.ReceiptWorker
import ZaloBot.SessionGrants

/-!
# Leases of executions

An execution publishes under the lease that its own claim of the job has
committed.  In every run each publication under a lease therefore comes after
one that left the job with the token of that lease.
-/

namespace ZaloBot

open Sessions LabelledRuns TaskPool

/-- The execution with this token holds the current lease of the job. -/
def HoldsLease (store : BotStore) (dedupeKey : String) (token : Uuid) :
    Prop :=
  ∃ job, store (.job dedupeKey) = some job ∧ job.leaseToken = some token

namespace Jobs

variable {Event : Type} {event : Event} {allowed : Event → Prop}
  {now : Timestamp} {dedupeKey : String} {job token : Uuid}

/-- An update of one job and its commit. -/
theorem names_settlement {condition : JobRow → Bool}
    {change : JobRow → JobRow} {lookupFailed commitFailed : ReceiptFailure}
    {rejected : StoreError} (isAllowed : allowed event) :
    (Session.updateRow lookupFailed (BotKey.job dedupeKey) condition change
      >>= fun updated =>
        if updated then Session.commitTransaction commitFailed event
        else Receipts.refuse rejected : Receipts.Statement Event _).Names
      allowed := by
  refine .bind ⟨fun row => ?_, trivial⟩ fun updated => ?_
  · dsimp only
    split <;> trivial
  · split
    · exact Session.names_commitTransaction isAllowed
    · trivial

theorem names_heartbeat {leaseDurationSecs : Int}
    (isAllowed : allowed event) :
    (heartbeat event now dedupeKey job token leaseDurationSecs).Names
      allowed := by
  unfold heartbeat
  split
  · trivial
  · exact names_settlement isAllowed

theorem names_cancelByOperator (isAllowed : allowed event) :
    (cancelByOperator event now dedupeKey job).Names allowed := by
  refine .bind ⟨fun _ => trivial, trivial⟩ fun row => ?_
  cases row with
  | none => trivial
  | some row =>
      dsimp only
      split
      · exact Session.names_commitTransaction isAllowed
      · trivial

end Jobs

namespace Followups

variable {Event : Type} {event : Event} {allowed : Event → Prop}
  {environment : FollowupEnvironment} {accountId submissionId : Uuid}

theorem names_enqueueOutboundInTransaction
    {environment : OutboundEnvironment} {failed : ReceiptFailure}
    {accountId : Option Uuid}
    {providerScope providerTarget body idempotencyKey : String} :
    (enqueueOutboundInTransaction environment failed accountId providerScope
      providerTarget body idempotencyKey : Receipts.Statement Event _).Names
      allowed := by
  refine .bind ?_ fun deliver => ?_
  · unfold outboundDeliveryAllowed
    split
    · cases accountId with
      | some accountId => exact ⟨fun _ => trivial, trivial⟩
      | none => trivial
    · trivial
  unfold enqueueDecided
  split
  case isFalse => trivial
  refine .bind ⟨fun existing => ?_, trivial⟩ fun _ => ?_
  · cases existing <;> trivial
  refine .bind ⟨fun _ => trivial, trivial⟩ fun outboundId => ?_
  cases outboundId with
  | none => trivial
  | some outboundId =>
      dsimp only
      split
      case isFalse => trivial
      refine .bind ?_ fun _ => trivial
      unfold Receipts.enqueueInTransaction
      split
      · trivial
      · refine .bind ⟨fun existing => ?_, trivial⟩ fun inserted => ?_
        · cases existing <;> trivial
        · cases inserted <;> trivial

theorem names_loadRouting :
    (loadRouting environment accountId submissionId :
      Receipts.Statement Event _).Names allowed := by
  refine .bind ⟨fun _ => trivial, trivial⟩ fun routing => ?_
  cases routing <;> trivial

theorem names_upsertReceiptReviewPending {expiresAt : Timestamp} :
    (upsertReceiptReviewPending accountId submissionId expiresAt :
      Receipts.Statement Event _).Names allowed := by
  refine .bind ⟨fun existing => ?_, trivial⟩ fun inserted => ?_
  · cases existing <;> trivial
  cases inserted with
  | true => trivial
  | false =>
      refine .bind ⟨fun _ => trivial, trivial⟩ fun version => ?_
      cases version with
      | none => trivial
      | some version =>
          refine .bind ⟨fun row => ?_, trivial⟩ fun updated => ?_
          · dsimp only
            split <;> trivial
          · cases updated <;> trivial

/-- The follow-ups publish under the event they are called with. -/
theorem names_enqueueReceiptReviewFollowup {reviewExpiryHours : Int}
    (isAllowed : allowed event) :
    (enqueueReceiptReviewFollowup event environment reviewExpiryHours
      accountId submissionId).Names allowed := by
  refine .bind ⟨fun _ => trivial, trivial⟩ fun existing => ?_
  split
  · trivial
  refine .bind names_loadRouting fun routing => ?_
  refine .bind ⟨fun _ => trivial, trivial⟩ fun draft => ?_
  cases draft with
  | none => trivial
  | some draft =>
      refine .bind names_upsertReceiptReviewPending fun _ => ?_
      exact .bind names_enqueueOutboundInTransaction fun _ =>
        Session.names_commitTransaction isAllowed

theorem names_enqueueReceiptFailureFollowup {errorClass : ErrorClass}
    (isAllowed : allowed event) :
    (enqueueReceiptFailureFollowup event environment accountId submissionId
      errorClass).Names allowed := by
  refine .bind ⟨fun _ => trivial, trivial⟩ fun existing => ?_
  split
  · trivial
  refine .bind names_loadRouting fun routing => ?_
  exact .bind names_enqueueOutboundInTransaction fun _ =>
    Session.names_commitTransaction isAllowed

end Followups

namespace Workers

open Receipts

/-- The lease that a publication is made under. -/
def citesLease (event : LeasedEvent) (lease : String × Uuid) : Prop :=
  event.lease = some lease

/-- The token of a lease is in its job. -/
def bearsOutLease (store : BotStore) (lease : String × Uuid) : Prop :=
  HoldsLease store lease.1 lease.2

variable {environment : WorkEnvironment} {job : ClaimedJob}
  {allowed : LeasedEvent → Prop} {accountId submissionId : Uuid}
  {errorClass : ErrorClass} {Value : Type}

theorem names_onReceipts {operation : Operation Value}
    (isAllowed : ∀ event, allowed (leased job event)) :
    (onReceipts job operation).Names allowed :=
  Session.names_mapEvent fun event => isAllowed (.receipt event)

theorem names_reportFailure
    (isAllowed : ∀ event, allowed (leased job event)) :
    (reportFailure environment job accountId submissionId errorClass).Names
      allowed := by
  refine .bind (names_onReceipts isAllowed).attempt fun _ => ?_
  exact .bind (Followups.names_enqueueReceiptFailureFollowup
    (isAllowed _)).attempt fun _ => trivial

theorem names_dispatchReceiptIngest
    (isAllowed : ∀ event, allowed (leased job event)) :
    (dispatchReceiptIngest environment job).Names allowed := by
  unfold dispatchReceiptIngest
  split
  · trivial
  split
  · trivial
  refine .bind ⟨fun _ => trivial, trivial⟩ fun media => ?_
  cases media with
  | none => trivial
  | some media =>
      dsimp only
      split
      · split
        · exact .bind (names_reportFailure isAllowed) fun _ => trivial
        · trivial
      refine .bind (names_onReceipts isAllowed).attempt fun outcome => ?_
      cases outcome with
      | ok value => trivial
      | error error =>
          dsimp only
          split
          · exact .bind (names_reportFailure isAllowed) fun _ => trivial
          · trivial

theorem names_reportExtractionFailure
    (isAllowed : ∀ event, allowed (leased job event)) :
    (reportExtractionFailure environment job accountId submissionId
      errorClass).Names allowed :=
  .bind (Followups.names_enqueueReceiptFailureFollowup
    (isAllowed _)).attempt fun _ => trivial

theorem names_review (isAllowed : ∀ event, allowed (leased job event)) :
    (do
      let followup ← (Followups.enqueueReceiptReviewFollowup
        (leased job .reviewFollowup) environment.followup
        environment.config.reviewExpiryHours accountId submissionId).attempt
      match followup with
      | .error _ => pure (.fail .dependency)
      | .ok _ => pure receiptJobComplete :
        Work OutboundJobExecution).Names allowed := by
  refine .bind (Followups.names_enqueueReceiptReviewFollowup
    (isAllowed _)).attempt fun followup => ?_
  cases followup <;> trivial

theorem names_dispatchReceiptExtract
    (isAllowed : ∀ event, allowed (leased job event)) :
    (dispatchReceiptExtract environment job).Names allowed := by
  unfold dispatchReceiptExtract
  split
  · trivial
  split
  · trivial
  refine .bind ⟨fun _ => trivial, trivial⟩ fun account => ?_
  cases account with
  | none => trivial
  | some accountId =>
      refine .bind (names_onReceipts isAllowed).attempt fun outcome => ?_
      unfold afterExtraction
      split
      · exact names_review isAllowed
      · exact names_review isAllowed
      · trivial
      · exact names_reportExtractionFailure isAllowed
      · dsimp only
        split
        · exact names_reportExtractionFailure isAllowed
        · trivial

theorem names_applyExecutionResult {execution : OutboundJobExecution}
    (isAllowed : ∀ event, allowed (leased job event)) :
    (applyExecutionResult environment job execution).Names allowed := by
  have fails (errorClass : ErrorClass) :
      (failJob environment job errorClass).Names allowed :=
    .bind (Session.Names.attempt (Jobs.names_settlement (isAllowed .fail)))
      fun _ => trivial
  cases execution with
  | complete result =>
      exact .bind (Session.Names.attempt
        (Jobs.names_settlement (isAllowed .complete))) fun _ => trivial
  | fail errorClass => exact fails errorClass
  | invalidJob => exact fails .validation
  | staleLease => trivial

/-- Everything after a claim is published under its lease. -/
theorem names_execution (isAllowed : ∀ event, allowed (leased job event)) :
    (do
      let execution ← dispatchLeasedJob environment job
      applyExecutionResult environment job execution
      pure (some (job, execution)) : Work _).Names allowed := by
  refine .bind ?_ fun execution => ?_
  · unfold dispatchLeasedJob
    split
    · exact names_dispatchReceiptIngest isAllowed
    split
    · exact names_dispatchReceiptExtract isAllowed
    · trivial
  · exact .bind (names_applyExecutionResult isAllowed) fun _ => trivial

/-- A claim commits the token of the lease that it returns. -/
theorem earns_claim {earned : String × Uuid → Prop} {own : Overlay BotRow}
    {now : Timestamp} {options : ClaimOptions} {token : Uuid}
    {candidate : Option String} :
    (Jobs.claim ⟨none, .claim⟩ now options token candidate : Work _).Earns
      citesLease bearsOutLease earned own fun claimed later _ =>
        ∀ job ∈ claimed, later (job.dedupeKey, job.leaseToken) := by
  have commits (claimed : Option ClaimedJob) (earned : String × Uuid → Prop)
      (own : Overlay BotRow)
      (written : ∀ job ∈ claimed, ∀ store,
        bearsOutLease (own.view store) (job.dedupeKey, job.leaseToken)) :
      (Session.commitTransaction (.dependency "claim commit failed")
        ⟨none, .claim⟩ >>= fun _ => pure claimed : Work _).Earns citesLease
          bearsOutLease earned own fun claimed later _ =>
            ∀ job ∈ claimed, later (job.dedupeKey, job.leaseToken) := by
    refine ⟨?_, fun job isClaimed => .inr (written job isClaimed), trivial⟩
    rintro lease ⟨⟩
  unfold Jobs.claim
  split
  · trivial
  split
  · trivial
  split
  · trivial
  cases candidate with
  | none => exact commits none _ _ (by simp)
  | some dedupeKey =>
      have selects : (Session.selectForUpdate
          (.dependency "claim candidate selection failed")
          (BotKey.job dedupeKey) (fun row : JobRow =>
            row.dedupeKey = dedupeKey && row.isClaimable now) :
              Work _).Earns citesLease bearsOutLease earned own
          fun selected _ _ => ∀ row ∈ selected, row.dedupeKey = dedupeKey := by
        refine ⟨fun row selected member => ?_, trivial⟩
        have meets := (Option.filter_eq_some_iff.mp member).2
        simp only [Bool.and_eq_true, decide_eq_true_eq] at meets
        exact meets.1
      refine .bind selects fun row earned own isKey => ?_
      cases row with
      | none => exact commits none _ _ (by simp)
      | some row =>
          have sameKey := isKey row rfl
          dsimp only
          unfold Jobs.claimCandidate
          split
          · exact commits none _ _ (by simp)
          · refine commits _ _ _ ?_
            rintro job ⟨⟩ store
            have leases : HoldsLease ((own.set (.job dedupeKey)
                (some ((JobRow.markLeased now (row.attemptCount + 1) token
                  options).apply row))).view store) row.dedupeKey token := by
              rw [sameKey]
              exact ⟨_, Overlay.set_view_self _ _ _ _, rfl⟩
            exact leases

/-- Executions publish under leases they have claimed, and nothing else
publishes under a lease. -/
theorem earns_serve (request : WorkerRequest) :
    (serve request).Earns citesLease bearsOutLease (fun _ => False)
      Overlay.none fun _ _ _ => True := by
  have unleased {session : Work WorkerResponse}
      (names : session.Names fun event => event.lease = none) :
      session.Earns citesLease bearsOutLease (fun _ => False) Overlay.none
        fun _ _ _ => True := by
    refine Session.Names.earns (names.mono fun event isNone claim cites => ?_)
    rw [citesLease, isNone] at cites
    contradiction
  cases request with
  | receipt request =>
      exact unleased (.bind (Session.names_mapEvent fun _ => rfl)
        fun _ => trivial)
  | work environment =>
      have works : (work environment).Earns citesLease bearsOutLease
          (fun _ => False) Overlay.none fun _ _ _ => True := by
        refine .bind earns_claim fun claimed earned own isEarned => ?_
        cases claimed with
        | none => trivial
        | some job =>
            refine Session.Names.earns (names_execution fun event lease => ?_)
            rintro ⟨⟩
            exact isEarned job rfl
      exact .bind works fun _ _ _ _ => trivial
  | heartbeat now dedupeKey job token leaseDurationSecs =>
      exact unleased (.bind (Jobs.names_heartbeat rfl) fun _ => trivial)
  | shutdown now dedupeKey job token =>
      exact unleased (.bind (Jobs.names_settlement rfl) fun _ => trivial)
  | recoverDead now dedupeKey job =>
      exact unleased (.bind (Jobs.names_settlement rfl) fun _ => trivial)
  | cancel now dedupeKey job =>
      exact unleased (.bind (Jobs.names_cancelByOperator rfl)
        fun _ => trivial)

/-- A publication under a lease comes after one that left the job with its
token. -/
theorem leased_of_reaches {initial : BotStore} {pool : WorkerPool}
    {later earlier : List (Publication BotRow LeasedEvent)}
    {publication : Publication BotRow LeasedEvent} {dedupeKey : String}
    {token : Uuid}
    (run : SessionReaches serve (Pool.idle (Database.fresh initial)) pool)
    (split : pool.world.log = later ++ publication :: earlier)
    (isLeased : publication.event.lease = some (dedupeKey, token)) :
    ∃ grant ∈ earlier, HoldsLease grant.after dedupeKey token :=
  (vouched_of_reaches earns_serve run).of_split split isLeased

end Workers

end ZaloBot
