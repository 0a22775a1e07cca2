import ZaloBot.ReceiptWorker
import ZaloBot.SessionTriples

/-!
# Executions from their parts

An execution is verified from triples of its parts: the claim, the calls of
the receipt lifecycle, the follow-ups and the settlement.  A claimed job carries
a fact from its claim to its end, the calls are made for the account that the
submission was found to belong to, and a job is completed only after the calls
have established that it may be.
-/

namespace ZaloBot

open Sessions

namespace Workers

open Receipts

/-- A session that begins neither with an effect outside the database nor with
the lock of a submission. -/
def startsOrdinary {Event Error Value : Type} :
    Session BotRow Event Error Value → Bool
  | .emit _ _ _ _ _ => false
  | .lock _ (.submission _) _ _ _ => false
  | _ => true

/-- What has to be known about the parts of executions. -/
structure ExecutionRules (rules : Discipline BotRow LeasedEvent ReceiptFailure)
    (policy : ReadPolicy BotRow LeasedEvent ReceiptFailure)
    (genuine : ClaimedJob → Prop) (owned : Uuid → Uuid → BotStore → Prop)
    (settled : ClaimedJob → BotStore → Prop) : Prop where
  starts : ∀ {Value : Type} (session : Work Value),
    startsOrdinary session = true → policy.ordinary session
  claim : ∀ environment : WorkEnvironment,
    rules.Triple .free (fun _ => True)
      (Jobs.claim ⟨none, .claim⟩ environment.claimedAt environment.options
        environment.token environment.candidate)
      fun claimed _ => ∀ job ∈ claimed, genuine job
  routes : ∀ older store submissionId row, rules.Earlier older store →
    older (.submission submissionId) = some row →
      owned submissionId row.accountId store
  failQueued : ∀ job now submissionId accountId errorClass,
    job.dedupeKey = ingestDedupeKey submissionId →
    rules.Triple .free (fun _ => True)
      (onReceipts job (failQueued now submissionId accountId
        errorClass)).attempt fun _ _ => True
  ingest : ∀ job environment accountId submissionId bytes mimeType
    extractJobId, job.dedupeKey = ingestDedupeKey submissionId →
    rules.Triple policy (owned submissionId accountId)
      (onReceipts job (ingest environment accountId submissionId bytes
        mimeType extractJobId)).attempt
      fun outcome store => ∀ value, outcome = .ok value → settled job store
  extract : ∀ job config environment accountId submissionId,
    job.dedupeKey = extractDedupeKey submissionId →
    rules.Triple .free (owned submissionId accountId)
      (onReceipts job (extract config environment accountId
        submissionId)).attempt
      fun outcome store => ∀ value, outcome = .ok value →
        value ≠ .unsupported → settled job store
  followup : ∀ {followup : Work Unit}, (∀ writes,
      Followups.MessageRows writes →
        followup.Behaves writes (fun _ key _ => writes key none) Overlay.none
          fun _ last => last = Overlay.none) →
    rules.Triple .free (fun _ => True) followup.attempt fun _ _ => True
  other : ∀ job store, rules.invariant store → genuine job →
    job.jobType ≠ jobTypeIngest → job.jobType ≠ jobTypeExtract →
      settled job store
  stable : ∀ job, Discipline.Triple.Stable rules (settled job)
  fail : ∀ job now errorClass, rules.Triple .free (fun _ => True)
    (Jobs.fail (leased job .fail) now job.dedupeKey job.id job.leaseToken
      errorClass).attempt fun _ _ => True
  complete : ∀ job now, rules.Triple .free (settled job)
    (Jobs.complete (leased job .complete) now job.dedupeKey job.id
      job.leaseToken).attempt fun _ _ => True

namespace ExecutionRules

open Discipline

variable {rules : Discipline BotRow LeasedEvent ReceiptFailure}
variable {policy : ReadPolicy BotRow LeasedEvent ReceiptFailure}
variable {genuine : ClaimedJob → Prop}
variable {owned : Uuid → Uuid → BotStore → Prop}
variable {settled : ClaimedJob → BotStore → Prop}
variable {environment : WorkEnvironment} {job : ClaimedJob}
variable {accountId submissionId : Uuid}

/-- A job is completed only when it may be. -/
def Settles (settled : ClaimedJob → BotStore → Prop) (job : ClaimedJob)
    (execution : OutboundJobExecution) (store : BotStore) : Prop :=
  ∀ result, execution = .complete result → settled job store

theorem triple_end {execution : OutboundJobExecution}
    {pre : BotStore → Prop}
    (ends : ∀ result, execution ≠ .complete result) :
    rules.Triple policy pre (pure execution) (Settles settled job) :=
  .pure fun _ _ _ result completes => absurd completes (ends result)

theorem triple_failureFollowup {errorClass : ErrorClass}
    (executes : ExecutionRules rules policy genuine owned settled) :
    rules.Triple .free (fun _ => True)
      (Followups.enqueueReceiptFailureFollowup (leased job .failureFollowup)
        environment.followup accountId submissionId errorClass).attempt
      fun _ _ => True :=
  executes.followup fun _ messages =>
    Followups.behaves_enqueueReceiptFailureFollowup messages

theorem triple_reportFailure {errorClass : ErrorClass}
    (executes : ExecutionRules rules policy genuine owned settled)
    (key : job.dedupeKey = ingestDedupeKey submissionId) :
    rules.Triple .free (fun _ => True)
      (reportFailure environment job accountId submissionId errorClass)
      fun _ _ => True := by
  refine .bindFree (executes.failQueued job _ _ _ _ key) fun _ => ?_
  exact .bindFree executes.triple_failureFollowup fun _ =>
    .pure fun _ _ _ => trivial

/-- Every way a failed download or ingest is answered. -/
theorem triple_failed {errorClass : ErrorClass} {reported : Prop}
    [Decidable reported] (executes : ExecutionRules rules policy genuine owned settled)
    (key : job.dedupeKey = ingestDedupeKey submissionId) :
    rules.Triple policy (fun _ => True) (if reported then do
        reportFailure environment job accountId submissionId errorClass
        pure (.fail errorClass)
      else
        pure (.fail errorClass)) (Settles settled job) := by
  split
  · exact .bindFree (executes.triple_reportFailure key) fun _ =>
      triple_end nofun
  · exact triple_end nofun

theorem triple_dispatchReceiptIngest
    (executes : ExecutionRules rules policy genuine owned settled) :
    rules.Triple policy (fun _ => True)
      (dispatchReceiptIngest environment job) (Settles settled job) := by
  unfold dispatchReceiptIngest
  split
  · exact triple_end nofun
  split
  · exact triple_end nofun
  rename_i submissionId _ sameKey
  have key := not_not.mp sameKey
  have answers : rules.Triple .free (fun _ => True)
      (loadSubmissionMediaUrl environment.mediaUrl submissionId)
      fun media store => ∀ account ∈ media.map Prod.fst,
        owned submissionId account store := by
    refine .read (fun older store earlier _ account found => ?_) nofun
    have routed := executes.routes older store submissionId
    cases present : older (.submission submissionId) with
    | none => simp [present] at found
    | some row =>
        cases mediaUrl : environment.mediaUrl with
        | none => simp [present, mediaUrl] at found
        | some url =>
            obtain rfl : row.accountId = account := by
              simpa [present, mediaUrl] using found
            exact routed row earlier present
  refine .bindFree answers fun media => ?_
  cases media with
  | none => exact triple_end nofun
  | some media =>
      dsimp only
      split
      · exact (executes.triple_failed key).consequence
          (fun _ _ _ => trivial) fun _ _ _ => id
      · refine .consequence ?_ (fun _ _ routed => routed media.1 rfl)
          fun _ _ _ => id
        refine .bindAttempt (executes.ingest job _ _ _ _ _ _ key)
          (fun _ => executes.starts _ rfl) fun outcome => ?_
        cases outcome with
        | ok value => exact .pure fun _ _ settles _ _ => settles value rfl
        | error error =>
            exact (executes.triple_failed key).consequence
              (fun _ _ _ => trivial) fun _ _ _ => id

theorem triple_reportExtractionFailure {errorClass : ErrorClass}
    (executes : ExecutionRules rules policy genuine owned settled) :
    rules.Triple policy (fun _ => True)
      (reportExtractionFailure environment job accountId submissionId
        errorClass) (Settles settled job) :=
  .bindFree executes.triple_failureFollowup fun _ => triple_end nofun

/-- The review card is queued before the job is completed. -/
theorem triple_review (executes : ExecutionRules rules policy genuine owned settled) :
    rules.Triple policy (settled job) (do
      let followup ← (Followups.enqueueReceiptReviewFollowup
        (leased job .reviewFollowup) environment.followup
        environment.config.reviewExpiryHours accountId submissionId).attempt
      match followup with
      | .error _ => pure (.fail .dependency)
      | .ok _ => pure receiptJobComplete) (Settles settled job) := by
  have follows : rules.Triple .free (settled job)
      (Followups.enqueueReceiptReviewFollowup (leased job .reviewFollowup)
        environment.followup environment.config.reviewExpiryHours accountId
        submissionId).attempt fun _ => settled job :=
    ((executes.followup fun _ messages =>
      Followups.behaves_enqueueReceiptReviewFollowup messages).carry
        (executes.stable job)).consequence
          (fun _ _ given => ⟨trivial, given⟩) fun _ _ _ facts => facts.2
  refine .bindFree follows fun followup => ?_
  cases followup with
  | error error => exact triple_end nofun
  | ok value => exact .pure fun _ _ may _ _ => may

theorem triple_dispatchReceiptExtract
    (executes : ExecutionRules rules policy genuine owned settled) :
    rules.Triple policy (fun _ => True)
      (dispatchReceiptExtract environment job) (Settles settled job) := by
  unfold dispatchReceiptExtract
  split
  · exact triple_end nofun
  split
  · exact triple_end nofun
  rename_i submissionId _ sameKey
  have answers : rules.Triple .free (fun _ => True)
      (loadSubmissionAccountId submissionId) fun account store =>
        ∀ accountId ∈ account, owned submissionId accountId store := by
    refine .read (fun older store earlier _ accountId found => ?_) nofun
    cases present : older (.submission submissionId) with
    | none => simp [present] at found
    | some row =>
        obtain rfl : row.accountId = accountId := by
          simpa [present] using found
        exact executes.routes older store submissionId row earlier present
  refine .bindFree answers fun account => ?_
  cases account with
  | none => exact triple_end nofun
  | some accountId =>
      refine .consequence ?_ (fun _ _ routed => routed accountId rfl)
        fun _ _ _ => id
      refine .bindFree (executes.extract job _ _ _ _ (not_not.mp sameKey))
        fun outcome => ?_
      unfold afterExtraction
      split
      · exact executes.triple_review.consequence
          (fun _ _ settles => settles _ rfl nofun) fun _ _ _ => id
      · exact executes.triple_review.consequence
          (fun _ _ settles => settles _ rfl nofun) fun _ _ _ => id
      · exact .pure fun _ _ settles _ _ => settles _ rfl nofun
      · exact executes.triple_reportExtractionFailure.consequence
          (fun _ _ _ => trivial) fun _ _ _ => id
      · dsimp only
        split
        · exact executes.triple_reportExtractionFailure.consequence
            (fun _ _ _ => trivial) fun _ _ _ => id
        · exact triple_end nofun

theorem triple_dispatchLeasedJob
    (executes : ExecutionRules rules policy genuine owned settled)
    (isGenuine : genuine job) :
    rules.Triple policy (fun _ => True)
      (dispatchLeasedJob environment job) (Settles settled job) := by
  unfold dispatchLeasedJob
  split
  · exact executes.triple_dispatchReceiptIngest
  split
  · exact executes.triple_dispatchReceiptExtract
  · rename_i notIngest notExtract
    exact .pure fun store holds _ _ _ =>
      executes.other job store holds isGenuine notIngest notExtract

theorem triple_applyExecutionResult {execution : OutboundJobExecution}
    (executes : ExecutionRules rules policy genuine owned settled) :
    rules.Triple policy (Settles settled job execution)
      (applyExecutionResult environment job execution) fun _ _ => True := by
  have fails (errorClass : ErrorClass) :
      rules.Triple policy (Settles settled job execution)
        (failJob environment job errorClass) fun _ _ => True := by
    refine .bindFree ((executes.fail job _ _).consequence
      (fun _ _ _ => trivial) fun _ _ _ => id) fun _ => ?_
    exact .pure fun _ _ _ => trivial
  cases execution with
  | complete result =>
      refine .bindFree ((executes.complete job _).consequence
        (fun _ _ settles => settles result rfl) fun _ _ _ => id) fun _ => ?_
      exact .pure fun _ _ _ => trivial
  | fail errorClass => exact fails errorClass
  | invalidJob => exact fails .validation
  | staleLease => exact .pure fun _ _ _ => trivial

/-- A turn of a worker. -/
theorem triple_work (executes : ExecutionRules rules policy genuine owned settled) :
    rules.Triple policy (fun _ => True) (work environment)
      fun _ _ => True := by
  refine .bindFree (executes.claim environment) fun claimed => ?_
  cases claimed with
  | none => exact .pure fun _ _ _ => trivial
  | some job =>
      intro floor store holds since allGenuine
      have isGenuine := allGenuine job rfl
      have executed : rules.Triple policy (fun _ => True)
          (dispatchLeasedJob environment job >>= fun execution =>
            applyExecutionResult environment job execution >>= fun _ =>
              pure (some (job, execution))) fun _ _ => True := by
        refine .bind (executes.triple_dispatchLeasedJob isGenuine) ?_
          fun execution => ?_
        · intro execution
          refine executes.starts _ ?_
          cases execution <;> rfl
        · refine .bind executes.triple_applyExecutionResult
            (fun _ => executes.starts _ rfl) fun _ => ?_
          exact .pure fun _ _ _ => trivial
      exact executed floor store holds since trivial

end ExecutionRules

/-- What has to be known about everything that runs beside the executions. -/
structure ServiceRules (rules : Discipline BotRow LeasedEvent ReceiptFailure)
    (policy : ReadPolicy BotRow LeasedEvent ReceiptFailure)
    (returns : WorkerResponse → BotStore → Prop) : Prop where
  receipt : rules.VerifiesAll policy.observes
    (fun request => serve (.receipt request)) returns
  heartbeat : ∀ now dedupeKey job token leaseDurationSecs,
    rules.Triple .free (fun _ => True)
      (Jobs.heartbeat ⟨none, .heartbeat⟩ now dedupeKey job token
        leaseDurationSecs) fun _ _ => True
  shutdown : ∀ now dedupeKey job token, rules.Triple .free (fun _ => True)
    (Jobs.fail ⟨none, .fail⟩ now dedupeKey job token .transient)
    fun _ _ => True
  recoverDead : ∀ now dedupeKey job, rules.Triple .free (fun _ => True)
    (Jobs.recoverDead ⟨none, .recoverDead⟩ now dedupeKey job)
    fun _ _ => True
  cancel : ∀ now dedupeKey job, rules.Triple .free (fun _ => True)
    (Jobs.cancelByOperator ⟨none, .cancel⟩ now dedupeKey job)
    fun _ _ => True

/-- Everything that runs, from its parts. -/
theorem ServiceRules.verifiesAll
    {rules : Discipline BotRow LeasedEvent ReceiptFailure}
    {policy : ReadPolicy BotRow LeasedEvent ReceiptFailure}
    {genuine : ClaimedJob → Prop} {owned : Uuid → Uuid → BotStore → Prop}
    {settled : ClaimedJob → BotStore → Prop}
    {returns : WorkerResponse → BotStore → Prop}
    (serves : ServiceRules rules policy returns)
    (executes : ExecutionRules rules policy genuine owned settled)
    (worked : ∀ executed store, returns (.worked executed) store)
    (finished : ∀ store, returns .finished store) :
    rules.VerifiesAll policy.observes serve returns := by
  have calls {call : Work Unit}
      (triple : rules.Triple .free (fun _ => True) call fun _ _ => True) :
      rules.Triple policy (fun _ => True)
        (call >>= fun _ => pure .finished) returns :=
    .bindFree triple fun _ => .pure fun store _ _ => finished store
  intro request
  cases request with
  | receipt request => exact serves.receipt request
  | work environment =>
      refine Discipline.Triple.verifies ?_
      exact .bind executes.triple_work (fun _ => executes.starts _ rfl)
        fun executed => .pure fun store _ _ => worked executed store
  | heartbeat now dedupeKey job token leaseDurationSecs =>
      exact (calls (serves.heartbeat now dedupeKey job token
        leaseDurationSecs)).verifies
  | shutdown now dedupeKey job token =>
      exact (calls (serves.shutdown now dedupeKey job token)).verifies
  | recoverDead now dedupeKey job =>
      exact (calls (serves.recoverDead now dedupeKey job)).verifies
  | cancel now dedupeKey job =>
      exact (calls (serves.cancel now dedupeKey job)).verifies

section Indifference

variable {rules : Discipline BotRow LeasedEvent ReceiptFailure}
variable {allowed : BotKey → Prop} {Value : Type}

/-- A discipline that asks nothing of publications which leave all rows alone
but those of certain keys. -/
structure Indifferent (rules : Discipline BotRow LeasedEvent ReceiptFailure)
    (allowed : BotKey → Prop) : Prop where
  guarantees : ∀ before event after, rules.invariant before →
    (∀ key, ¬ allowed key → after key = before key) →
      rules.guarantee before event after
  refuses : ∀ error store, rules.invariant store → rules.refusal error store

theorem Indifferent.triple {part : Work Value} {pre : BotStore → Prop}
    (indifferent : Indifferent rules allowed)
    (behaves : part.Behaves (fun key _ => allowed key)
      (fun _ key _ => allowed key) Overlay.none
      fun _ last => last = Overlay.none) :
    rules.Triple .free pre part fun _ _ => True :=
  .of_behaves indifferent.guarantees indifferent.refuses behaves
    fun _ _ => id

theorem Indifferent.tripleAttempt {part : Work Value}
    {pre : BotStore → Prop} (indifferent : Indifferent rules allowed)
    (behaves : part.Behaves (fun key _ => allowed key)
      (fun _ key _ => allowed key) Overlay.none
      fun _ last => last = Overlay.none) :
    rules.Triple .free pre part.attempt fun _ _ => True :=
  indifferent.triple (.attempt behaves fun _ => rfl)

/-- A discipline that does not mind changes of jobs and messages is kept by
executions as soon as the calls of the receipt lifecycle keep it. -/
theorem Indifferent.executes (indifferent : Indifferent rules allowed)
    (jobs : ∀ dedupeKey, allowed (.job dedupeKey))
    (messages : Followups.MessageRows fun key _ => allowed key)
    (failQueued : ∀ job now submissionId accountId errorClass,
      job.dedupeKey = ingestDedupeKey submissionId →
      rules.Triple .free (fun _ => True)
        (onReceipts job (failQueued now submissionId accountId
          errorClass)).attempt fun _ _ => True)
    (ingest : ∀ job environment accountId submissionId bytes mimeType
      extractJobId, job.dedupeKey = ingestDedupeKey submissionId →
      rules.Triple .free (fun _ => True)
        (onReceipts job (ingest environment accountId submissionId bytes
          mimeType extractJobId)).attempt fun _ _ => True)
    (extract : ∀ job config environment accountId submissionId,
      job.dedupeKey = extractDedupeKey submissionId →
      rules.Triple .free (fun _ => True)
        (onReceipts job (extract config environment accountId
          submissionId)).attempt fun _ _ => True) :
    ExecutionRules rules .free (fun _ => True) (fun _ _ _ => True)
      fun _ _ => True where
  starts _ _ := trivial
  claim _ := (indifferent.triple (Jobs.behaves_claim fun _ _ =>
    jobs _)).consequence (fun _ _ => id) fun _ _ _ _ _ _ => trivial
  routes _ _ _ _ _ _ := trivial
  failQueued := failQueued
  ingest job environment accountId submissionId bytes mimeType extractJobId
      key := (ingest job environment accountId submissionId bytes mimeType
    extractJobId key).consequence (fun _ _ => id) fun _ _ _ _ _ _ => trivial
  extract job config environment accountId submissionId key :=
    (extract job config environment accountId submissionId
      key).consequence (fun _ _ => id) fun _ _ _ _ _ _ _ => trivial
  followup behaves := indifferent.tripleAttempt (behaves _ messages)
  other _ _ _ _ _ _ := trivial
  stable _ _ _ _ _ := trivial
  fail _ _ _ := indifferent.tripleAttempt (Jobs.behaves_fail fun _ => jobs _)
  complete _ _ := indifferent.tripleAttempt
    (Jobs.behaves_complete fun _ => jobs _)

/-- The calls on jobs keep such a discipline, too. -/
theorem Indifferent.serves {returns : WorkerResponse → BotStore → Prop}
    (indifferent : Indifferent rules allowed)
    (jobs : ∀ dedupeKey, allowed (.job dedupeKey))
    (receipt : rules.VerifiesAll (fun _ _ => True)
      (fun request => serve (.receipt request)) returns) :
    ServiceRules rules .free returns where
  receipt := receipt
  heartbeat _ _ _ _ _ := indifferent.triple
    (Jobs.behaves_heartbeat fun _ => jobs _)
  shutdown _ _ _ _ := indifferent.triple (Jobs.behaves_fail fun _ => jobs _)
  recoverDead _ _ _ := indifferent.triple
    (Jobs.behaves_recoverDead fun _ => jobs _)
  cancel _ _ _ := indifferent.triple
    (Jobs.behaves_cancelByOperator fun _ => jobs _)

end Indifference

end Workers

end ZaloBot
