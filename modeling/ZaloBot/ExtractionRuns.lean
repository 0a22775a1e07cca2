import ZaloBot.OutboxEnqueue
import ZaloBot.RetentionPasses
import ZaloBot.SoloAttempts

/-!
# Extractions that run alone

A job whose submission is ready claims the extraction, pays for it, asks the
extractor about the stored image and records how that failed.  The failure
message that follows finds its inbound event and its account as they were.
-/

namespace ZaloBot

open Sessions

namespace Extractions

open Receipts Retention Followups Workers

/-- The counter of the extractions of a period. -/
def pagesKey (period : String) : BotKey :=
  .usageCounter UsageQuota.scopeGlobal UsageQuota.globalScopeId period
    UsageQuota.metricExtractionPages

/-- The counter after one more extraction. -/
def pagesCharged (config : ReceiptConfig) (period : String)
    (store : BotStore) : UsageCounterRow :=
  ⟨((store (pagesKey period)).map UsageCounterRow.count).getD 0 + 1,
    UsageQuota.storedLimit config.monthlyExtractionPages⟩

/-- A submission that can be extracted now, or is being extracted. -/
structure IsReady (submissionId : Uuid) (row : SubmissionRow) : Prop where
  checks : row.satisfiesChecks submissionId = true
  state : (row.state = .stored ∨ row.state = .failedTransient) ∨
    row.state = .extracting

/-- A store on which an extraction reads an image and asks the extractor about
it. -/
structure AsksExtractor (config : ReceiptConfig)
    (environment : ExtractEnvironment) (accountId submissionId : Uuid)
    (row : SubmissionRow) (bytes : List UInt8) (store : BotStore) :
    Prop where
  submission : store (.submission submissionId) = some row
  owner : row.accountId = accountId
  ready : IsReady submissionId row
  active : (store (BotKey.account accountId)).any
    (·.lifecycleState = .active) = true
  enabled : config.extractionEnabled = true
  within : (pagesCharged config environment.period store).exceeded = false
  image : ∃ asset, store (.asset submissionId) = some asset ∧
    asset.accountId = accountId ∧
      store (.object asset.objectKey) = some bytes

/-- A submission that an extraction has claimed. -/
structure IsClaimed (submissionId : Uuid) (row claimed : SubmissionRow) :
    Prop where
  state : claimed.state = .extracting
  accountId : claimed.accountId = row.accountId
  inboundEventId : claimed.inboundEventId = row.inboundEventId
  checks : claimed.satisfiesChecks submissionId = true

/-- What an extraction leaves as it was. -/
structure KeepsRoute (submissionId : Uuid) (period : String)
    (row : SubmissionRow) (before after : BotStore) : Prop where
  others : ∀ key, key ≠ .submission submissionId →
    key ≠ .extractionAttempts submissionId → key ≠ pagesKey period →
      after key = before key
  submission : ∃ later, after (.submission submissionId) = some later ∧
    later.accountId = row.accountId ∧
      later.inboundEventId = row.inboundEventId

section Steps

variable {store : BotStore} {own : Overlay BotRow}
variable {row : SubmissionRow} {submissionId accountId : Uuid}

theorem executes_incrementInTransaction {Event Error : Type} {failed : Error}
    {scope scopeId period metric : String} {limit : Int} :
    Executes isObject
      (UsageQuota.incrementInTransaction failed scope scopeId period metric
        limit : Session BotRow Event Error UsageCounterRow) own store
      ⟨((own.view store (.usageCounter scope scopeId period metric)).map
        UsageCounterRow.count).getD 0 + 1, limit⟩
      (own.set (.usageCounter scope scopeId period metric)
        (some ⟨((own.view store (.usageCounter scope scopeId period
          metric)).map UsageCounterRow.count).getD 0 + 1, limit⟩))
      store := by
  rintro database rfl alone
  unfold UsageQuota.incrementInTransaction endsAlone
  simp only [if_true]
  exact ⟨alone.lockable, writable_lock, rfl, rfl, rfl,
    alone.lock (by rintro ⟨_, ⟨⟩⟩)⟩

/-- The charge for an extraction. -/
theorem executes_chargePages (config : ReceiptConfig) {period : String} :
    Executes isObject
      (UsageQuota.incrementInTransaction
        (.dependency "quota increment failed") UsageQuota.scopeGlobal
        UsageQuota.globalScopeId period UsageQuota.metricExtractionPages
        (UsageQuota.storedLimit config.monthlyExtractionPages) :
        Operation UsageCounterRow) Overlay.none store
      (pagesCharged config period store)
      (Overlay.none.set (pagesKey period)
        (some (pagesCharged config period store))) store :=
  executes_incrementInTransaction

theorem executes_commit {event : ReceiptEvent} {key : BotKey}
    {written : Option (BotRow key)} :
    Executes isObject (commit event) (Overlay.none.set key written) store ()
      Overlay.none (Function.update store key written) := by
  have committed : Executes isObject (commit event)
      (Overlay.none.set key written) store () Overlay.none
      ((Overlay.none.set key written).view store) :=
    executes_commitTransaction
  rwa [Overlay.set_view, Overlay.none_view] at committed

/-- The claim of an extraction, on a submission that is ready. -/
theorem executes_claimExtracting {now : Timestamp}
    (present : store (.submission submissionId) = some row)
    (owner : row.accountId = accountId) (ready : IsReady submissionId row) :
    ∃ claimed, IsClaimed submissionId row claimed ∧
      Executes isObject (claimExtracting now accountId submissionId)
        Overlay.none store none Overlay.none
        (Function.update store (.submission submissionId) (some claimed)) := by
  have loads : Executes isObject
      (loadSubmissionForUpdate submissionId accountId :
        Operation SubmissionRow) Overlay.none store row Overlay.none store :=
    executes_loadSubmissionForUpdate present owner
  rcases ready.state with waiting | extracting
  · have moves : canTransition row.state .extracting = true := by
      rcases waiting with state | state <;> rw [state] <;> rfl
    have checks : (row.transitioned now .extracting none none none
        none).satisfiesChecks submissionId = true :=
      SubmissionRow.satisfiesChecks_transitioned ready.checks moves (by simp)
        (by simp) (by simp)
    refine ⟨row.transitioned now .extracting none none none none,
      ⟨rfl, rfl, rfl, checks⟩, .bind loads ?_⟩
    rw [if_neg (by rcases waiting with state | state <;> simp [state]),
      if_neg (by
        rcases waiting with state | state <;>
          simp [state, ReceiptState.isTerminal]), if_pos waiting]
    exact .bind (executes_transitionState present owner moves checks)
      (.bind executes_commit executes_pure)
  · refine ⟨row, ⟨extracting, rfl, rfl, ready.checks⟩, .bind loads ?_⟩
    rw [if_neg (by simp [extracting]),
      if_neg (by simp [extracting, ReceiptState.isTerminal]),
      if_neg (by simp [extracting]), if_pos extracting,
      ← present, Function.update_eq_self]
    exact .bind executes_commitTransaction executes_pure

/-- An attempt is recorded under the next number before anything else. -/
theorem executes_recordAttempt (outcome : ExtractionAttemptOutcome)
    (errorClass : Option String) :
    ∃ attempts, ∀ (rest : Operation Unit) (last : Overlay BotRow)
      (after : BotStore),
      Executes isObject rest
        (own.set (.extractionAttempts submissionId) attempts) store () last
        after →
      Executes isObject (do
        let attempts ← attemptCount submissionId
        recordExtractionAttempt submissionId ⟨attempts + 1, outcome, errorClass⟩
        rest) own store () last after :=
  ⟨_, fun _ _ _ continues =>
    .bind executes_query (.bind (executes_upsertRow nofun) continues)⟩

/-- The record of a failed extraction. -/
theorem executes_persistExtractionFailure {now : Timestamp}
    {errorClass : ErrorClass} {terminalState : ReceiptState}
    {claimed : SubmissionRow} (isClaimed : IsClaimed submissionId row claimed)
    (present : store (.submission submissionId) = some claimed)
    (owner : row.accountId = accountId)
    (terminal : terminalState = .failedPermanent ∨
      terminalState = .failedTransient) :
    ∃ after, Executes isObject (persistExtractionFailure now accountId
        submissionId errorClass terminalState) Overlay.none store ()
        Overlay.none after ∧
      (∀ key, key ≠ .submission submissionId →
        key ≠ .extractionAttempts submissionId → after key = store key) ∧
      after (.submission submissionId) = some (claimed.transitioned now
        terminalState (some errorClass.asStr) none none none) := by
  have extracting := isClaimed.state
  have claimedOwner := isClaimed.accountId.trans owner
  have moves : canTransition claimed.state terminalState = true := by
    rcases terminal with state | state <;> rw [extracting, state] <;> rfl
  have notConfirmed : terminalState ≠ .confirmed := by
    rcases terminal with state | state <;> simp [state]
  have notReview : terminalState ≠ .reviewRequired := by
    rcases terminal with state | state <;> simp [state]
  have checksAfter : (claimed.transitioned now terminalState
      (some errorClass.asStr) none none none).satisfiesChecks submissionId =
        true :=
    SubmissionRow.satisfiesChecks_transitioned isClaimed.checks moves
      (by simp [notConfirmed]) (by simp [notReview]) (by simp)
  obtain ⟨attempts, records⟩ := @executes_recordAttempt store Overlay.none
    submissionId .failed (some errorClass.asStr)
  have recorded : (Overlay.none.set (.extractionAttempts submissionId)
      attempts).view store (.submission submissionId) = some claimed := by
    rw [Overlay.set_view_other (by simp)]
    exact present
  refine ⟨((Overlay.none.set (.extractionAttempts submissionId) attempts).set
    (.submission submissionId) (some (claimed.transitioned now terminalState
      (some errorClass.asStr) none none none))).view store, ?_,
    fun key notSubmission notAttempts => ?_, ?_⟩
  · refine .bind (executes_loadSubmissionForUpdate present claimedOwner) ?_
    rw [if_neg (by simp [extracting]), ← extracting]
    exact records _ _ _ (.bind (executes_transitionState recorded claimedOwner
      moves checksAfter) executes_commitTransaction)
  · rw [Overlay.set_view_other notSubmission,
      Overlay.set_view_other notAttempts]
    rfl
  · rw [Overlay.set_view_self]

/-- A claimed extraction on a store of its own. -/
structure IsAsked (submissionId : Uuid) (period : String)
    (row claimed : SubmissionRow) (store asked : BotStore) : Prop where
  isClaimed : IsClaimed submissionId row claimed
  submission : asked (.submission submissionId) = some claimed
  others : ∀ key, key ≠ .submission submissionId → key ≠ pagesKey period →
    asked key = store key

variable {config : ReceiptConfig} {environment : ExtractEnvironment}
variable {bytes : List UInt8}

/-- An extraction claims its submission and pays before it does anything
else. -/
theorem executes_extract (asks : AsksExtractor config environment accountId
      submissionId row bytes store) :
    ∃ asked claimed, IsAsked submissionId environment.period row claimed store
        asked ∧
      ∀ result last after, Executes isObject (extractClaimed config
          environment accountId submissionId).attempt Overlay.none asked
          result last after →
        Executes isObject (extract config environment accountId
          submissionId).attempt Overlay.none store result last after := by
  have claims : ∃ claimed, IsClaimed submissionId row claimed ∧
      Executes isObject (claimExtracting environment.claimedAt accountId
        submissionId) Overlay.none store none Overlay.none
        (Function.update store (.submission submissionId) (some claimed)) :=
    executes_claimExtracting asks.submission asks.owner asks.ready
  obtain ⟨claimed, isClaimed, begins⟩ := claims
  have own : Function.update store (.submission submissionId) (some claimed)
      (.submission submissionId) = some claimed := Function.update_self ..
  have other (key : BotKey) (different : key ≠ .submission submissionId) :
      Function.update store (.submission submissionId) (some claimed) key =
        store key :=
    Function.update_of_ne different _ _
  generalize Function.update store (.submission submissionId)
    (some claimed) = middle at begins own other
  have sameCharge : pagesCharged config environment.period middle =
      pagesCharged config environment.period store := by
    rw [pagesCharged, other _ (by simp [pagesKey]), pagesCharged]
  refine ⟨Function.update middle (pagesKey environment.period)
    (some (pagesCharged config environment.period store)), claimed,
    ⟨isClaimed, ?_, fun key notSubmission notPages => ?_⟩,
    fun result last after ends => ?_⟩
  · rw [Function.update_of_ne (by simp [pagesKey]), own]
  · rw [Function.update_of_ne notPages, other key notSubmission]
  · refine .attempt_bind begins (.attempt_bind executes_query ?_)
    rw [Overlay.none_view, other _ (by simp), if_pos asks.active,
      if_pos asks.enabled]
    refine .attempt_bind (executes_chargePages config) ?_
    refine .attempt_bind executes_commitTransaction ?_
    rw [sameCharge, asks.within, Overlay.set_view, Overlay.none_view]
    exact ends

/-- What the extractor makes of the stored image. -/
theorem executes_readAndExtract {claimed : SubmissionRow} {asked : BotStore}
    (asks : AsksExtractor config environment accountId submissionId row bytes
      store)
    (isAsked : IsAsked submissionId environment.period row claimed store
      asked) :
    Executes isObject (readAndExtract environment accountId
        submissionId).attempt Overlay.none asked
      ((environment.extractor bytes).mapError .refused) Overlay.none
      asked := by
  obtain ⟨asset, present, owner, object⟩ := asks.image
  have readAsset := isAsked.others (.asset submissionId) nofun nofun
  have readObject := isAsked.others (.object asset.objectKey) nofun nofun
  rw [present] at readAsset
  rw [object] at readObject
  refine .attempt_bind executes_query ?_
  rw [Overlay.none_view, readAsset, Option.filter_some,
    if_pos (by simpa using owner)]
  refine .attempt_bind executes_query ?_
  rw [Overlay.none_view, readObject]
  dsimp only
  cases environment.extractor bytes with
  | error error => exact executes_attempt_fail
  | ok extraction =>
      have returns : Executes isObject (pure extraction :
          Operation ExtractionResult) Overlay.none asked extraction
          Overlay.none asked := executes_pure
      exact returns.attempt

/-- The record of a failure keeps the way to the user. -/
theorem executes_recordFailure {claimed : SubmissionRow} {asked : BotStore}
    {errorClass : ErrorClass} {terminalState : ReceiptState}
    (asks : AsksExtractor config environment accountId submissionId row bytes
      store)
    (isAsked : IsAsked submissionId environment.period row claimed store
      asked)
    (terminal : terminalState = .failedPermanent ∨
      terminalState = .failedTransient) :
    ∃ after, Executes isObject (persistExtractionFailure
        environment.finishedAt accountId submissionId errorClass
        terminalState) Overlay.none asked () Overlay.none after ∧
      KeepsRoute submissionId environment.period row store after := by
  obtain ⟨after, records, others, written⟩ :=
    @executes_persistExtractionFailure asked row submissionId accountId
      environment.finishedAt errorClass terminalState claimed
      isAsked.isClaimed isAsked.submission asks.owner terminal
  refine ⟨after, records, fun key notSubmission notAttempts notPages => ?_,
    _, written, isAsked.isClaimed.accountId,
    isAsked.isClaimed.inboundEventId⟩
  rw [others key notSubmission notAttempts,
    isAsked.others key notSubmission notPages]

/-- An image that is no receipt. -/
theorem executes_extract_unsupported {extraction : ExtractionResult}
    (asks : AsksExtractor config environment accountId submissionId row bytes
      store)
    (answers : environment.extractor bytes = .ok extraction)
    (unsupported : extraction.unsupported = true) :
    ∃ after, Executes isObject (extract config environment accountId
        submissionId).attempt Overlay.none store (.ok .unsupported)
        Overlay.none after ∧
      KeepsRoute submissionId environment.period row store after := by
  obtain ⟨asked, claimed, isAsked, extracts⟩ := executes_extract asks
  obtain ⟨after, records, keeps⟩ := @executes_recordFailure store row
    submissionId accountId config environment bytes claimed asked
    .unsupported .failedPermanent asks isAsked (Or.inl rfl)
  have reads := executes_readAndExtract asks isAsked
  rw [answers] at reads
  refine ⟨after, extracts _ _ _ (.attempt_bind reads ?_), keeps⟩
  change Executes isObject (Session.attempt (if extraction.unsupported then _
    else _)) _ _ _ _ _
  rw [if_pos unsupported]
  exact .attempt_bind records executes_pure.attempt

/-- An answer that is refused. -/
theorem executes_extract_refused {error : StoreError}
    (asks : AsksExtractor config environment accountId submissionId row bytes
      store)
    (answers : environment.extractor bytes = .error error) :
    ∃ after, Executes isObject (extract config environment accountId
        submissionId).attempt Overlay.none store (.error (.refused error))
        Overlay.none after ∧
      KeepsRoute submissionId environment.period row store after := by
  have terminal : failureStateFor error.errorClass = .failedPermanent ∨
      failureStateFor error.errorClass = .failedTransient := by
    cases error.errorClass <;> simp [failureStateFor]
  obtain ⟨asked, claimed, isAsked, extracts⟩ := executes_extract asks
  obtain ⟨after, records, keeps⟩ := @executes_recordFailure store row
    submissionId accountId config environment bytes claimed asked
    error.errorClass (failureStateFor error.errorClass) asks isAsked terminal
  have reads := executes_readAndExtract asks isAsked
  rw [answers] at reads
  exact ⟨after, extracts _ _ _ (.attempt_bind reads
    (.attempt_bind records executes_attempt_fail)), keeps⟩

end Steps

end Extractions

end ZaloBot
