import ZaloBot.QuotaCharges
import ZaloBot.ReceiptFollowups
import ZaloBot.ReceiptStatementRules
import ZaloBot.SessionEvents

/-!
# Transactions with quotas

The three callers of the counters with a limit of their own, statement by
statement: the acceptance of a receipt and the queueing of a message inside an
ingress transaction, and the extraction, which commits its charge before it
calls the extractor.  What they do on the strength of a charge is covered by a
charge that was not exceeded.
-/

namespace ZaloBot

open Sessions LabelledRuns TaskPool

/-- The configured limits; they do not change during a run. -/
structure QuotaLimits where
  perUserDailyReceipts : Nat
  zaloMonthlyMessages : Nat
  monthlyExtractionPages : Nat
  others : CounterKey → Nat

/-- The limit that increments of a counter bind. -/
def QuotaLimits.limit (limits : QuotaLimits) (counter : CounterKey) : Int :=
  if counter.metric = UsageQuota.metricReceipts then
    UsageQuota.storedLimit limits.perUserDailyReceipts
  else if counter.metric = UsageQuota.metricZaloMessages then
    UsageQuota.storedLimit limits.zaloMonthlyMessages
  else if counter.metric = UsageQuota.metricExtractionPages then
    UsageQuota.storedLimit limits.monthlyExtractionPages
  else
    limits.others counter

/-- What the environment decides about the acceptance of a receipt. -/
structure AcceptEnvironment where
  now : Timestamp
  dailyPeriodKey : String → String
  dailyReceiptQuotaText : String → String

namespace Quota

open Receipts

/-- Sessions that name their charges. -/
abbrev Metered (Value : Type) :=
  Session BotRow QuotaEvent ReceiptFailure Value

/-- `increment_in_transaction`, noted among the facts of the transaction. -/
def charge (limits : QuotaLimits) (failed : ReceiptFailure)
    (counter : CounterKey) (facts : QuotaEvent) :
    Metered (UsageCounterRow × QuotaEvent) := do
  let outcome ← UsageQuota.incrementInTransaction failed counter.scope
    counter.scopeId counter.period counter.metric (limits.limit counter)
  pure (outcome, facts ++ [.charged ⟨counter, outcome⟩])

/-- `remaining_in_transaction`. -/
def remainingInTransaction (limits : QuotaLimits) (failed : ReceiptFailure)
    (counter : CounterKey) : Metered Int :=
  .query failed fun view =>
    max (limits.limit counter - countOf view counter) 0

/-- `apply_effect` for `AcceptReceiptSubmission`: the reply of an exceeded
quota, if any. -/
def acceptReceiptSubmission (limits : QuotaLimits)
    (environment : AcceptEnvironment) (failed : ReceiptFailure)
    (effectEventId inboundEventId submissionId accountId ingestJobId : Uuid)
    (facts : QuotaEvent) : Metered (Option String × QuotaEvent) :=
  if effectEventId ≠ inboundEventId then
    .fail failed
  else do
    let timezone ← .query failed fun view =>
      (view (BotKey.account accountId)).map AccountRow.timezone
    match timezone with
    | none => .fail failed
    | some timezone => do
        let use : QuotaUse := .receiptAccepted accountId
          (environment.dailyPeriodKey timezone) submissionId
        let (outcome, facts) ← charge limits failed use.counter facts
        if outcome.exceeded then
          .read
            (fun view => .done (some (environment.dailyReceiptQuotaText
              (((view (BotKey.account accountId)).map AccountRow.locale).getD
                "vi-VN")), facts))
            (.done (some (environment.dailyReceiptQuotaText "vi-VN"), facts))
        else do
          let _ ← acceptSubmissionInTransaction environment.now
            ⟨submissionId, accountId, some inboundEventId, ingestJobId⟩
          pure (none, facts ++ [.used use])

/-- `outbound_delivery_allowed` for a message of an account. -/
def outboundDeliveryAllowed (limits : QuotaLimits)
    (environment : OutboundEnvironment) (failed : ReceiptFailure)
    (accountId : Uuid) (idempotencyKey : String) (facts : QuotaEvent) :
    Metered (Bool × QuotaEvent) :=
  if environment.outboundEnabled then do
    let (outcome, facts) ← charge limits failed (QuotaUse.messageQueued
      accountId environment.period idempotencyKey).counter facts
    pure (!outcome.exceeded, facts)
  else
    pure (false, facts)

/-- `enqueue_outbound_in_transaction` for a message of an account. -/
def enqueueOutboundInTransaction (limits : QuotaLimits)
    (environment : OutboundEnvironment) (failed : ReceiptFailure)
    (accountId : Uuid)
    (providerScope providerTarget body idempotencyKey : String)
    (facts : QuotaEvent) : Metered QuotaEvent := do
  let (deliver, facts) ← outboundDeliveryAllowed limits environment failed
    accountId idempotencyKey facts
  Followups.enqueueDecided environment failed (some accountId) providerScope
    providerTarget body idempotencyKey deliver
  pure (if deliver then
      facts ++
        [.used (.messageQueued accountId environment.period idempotencyKey)]
    else
      facts)

/-- An ingress transaction as far as the quotas are concerned: it may look at
what remains, accept receipts and queue messages in any order, choose what it
does next by what it has seen, and commit or roll back. -/
inductive IngressTransaction where
  | finish (commits : Bool)
  | remaining (counter : CounterKey) (next : Int → IngressTransaction)
  | accept (environment : AcceptEnvironment)
      (effectEventId inboundEventId submissionId accountId ingestJobId : Uuid)
      (next : Option String → IngressTransaction)
  | send (environment : OutboundEnvironment) (accountId : Uuid)
      (providerScope providerTarget body idempotencyKey : String)
      (next : IngressTransaction)

/-- The session of an ingress transaction. -/
def ingress (limits : QuotaLimits) (failed : ReceiptFailure) :
    IngressTransaction → QuotaEvent → Metered Unit
  | .finish true, facts => .commitTransaction failed facts
  | .finish false, _ => .rollback (pure ())
  | .remaining counter next, facts => do
      let left ← remainingInTransaction limits failed counter
      ingress limits failed (next left) facts
  | .accept environment effectEventId inboundEventId submissionId accountId
      ingestJobId next, facts => do
      let (reply, facts) ← acceptReceiptSubmission limits environment failed
        effectEventId inboundEventId submissionId accountId ingestJobId facts
      ingress limits failed (next reply) facts
  | .send environment accountId providerScope providerTarget body
      idempotencyKey next, facts => do
      let facts ← enqueueOutboundInTransaction limits environment failed
        accountId providerScope providerTarget body idempotencyKey facts
      ingress limits failed next facts

/-- Transactions that say nothing about the counters. -/
def quiet {Event Value : Type}
    (session : Session BotRow Event ReceiptFailure Value) : Metered Value :=
  session.mapEvent fun _ => []

/-- The call of the extractor: it changes no row, and its answer is not to be
had without it. -/
def callExtractor (environment : ExtractEnvironment) (bytes : List UInt8) :
    Metered (Except ReceiptFailure ExtractionResult) :=
  .commit [.used (.extractorCalled environment.period)]
    (.done ((environment.extractor bytes).mapError ReceiptFailure.refused))
    (.done (.error (.dependency "gemini request failed")))

/-- `read_and_extract`, with its error as a value. -/
def readAndExtract (environment : ExtractEnvironment)
    (accountId submissionId : Uuid) :
    Metered (Except ReceiptFailure ExtractionResult) := do
  let asset ← (loadAsset submissionId accountId).attempt
  match asset with
  | .error error => pure (.error error)
  | .ok none => pure (.error (.refused (.notFound "receipt asset not found")))
  | .ok (some asset) => do
      let bytes ← (Session.query (.refused environment.objectStoreError)
        fun view => view (BotKey.object asset.objectKey)).attempt
      match bytes with
      | .error error => pure (.error error)
      | .ok none =>
          pure (.error (.refused (.notFound "receipt object missing")))
      | .ok (some bytes) => callExtractor environment bytes

/-- The part of `extract` after the extraction has been claimed and paid
for. -/
def extractClaimed (config : ReceiptConfig)
    (environment : ExtractEnvironment) (accountId submissionId : Uuid) :
    Metered ExtractOutcome := do
  let now := environment.finishedAt
  let extracted ← readAndExtract environment accountId submissionId
  match extracted with
  | .ok extraction =>
      if extraction.unsupported then do
        quiet (persistExtractionFailure now accountId submissionId
          .unsupported .failedPermanent)
        pure .unsupported
      else
        quiet (persistExtractionSuccess config now environment.draftId
          accountId submissionId extraction)
  | .error error => do
      quiet (persistExtractionFailure now accountId submissionId
        error.reported.errorClass (failureStateFor error.reported.errorClass))
      .fail error

/-- `extract`. -/
def extract (limits : QuotaLimits) (config : ReceiptConfig)
    (environment : ExtractEnvironment) (accountId submissionId : Uuid) :
    Metered ExtractOutcome := do
  let claimed ←
    quiet (claimExtracting environment.claimedAt accountId submissionId)
  match claimed with
  | some outcome => pure outcome
  | none => do
      let active ← accountIsActive accountId
      if active then
        if config.extractionEnabled then do
          let (outcome, facts) ← charge limits
            (.dependency "quota increment failed")
            (QuotaUse.extractorCalled environment.period).counter []
          .commitTransaction (.dependency "quota commit failed") facts
          if outcome.exceeded then do
            quiet (persistExtractionFailure environment.finishedAt accountId
              submissionId .quotaExceeded .failedPermanent)
            refuse (.quotaExceeded "monthly extraction quota exceeded")
          else
            extractClaimed config environment accountId submissionId
        else do
          quiet (persistExtractionFailure environment.finishedAt accountId
            submissionId .killSwitch .failedPermanent)
          refuse (.killSwitch "extraction is disabled")
      else
        pure (.alreadyTerminal .deleted)

section Footprints

variable {Event Value : Type} {limit : CounterKey → Int}
variable {opened : List Charge} {credit : Credit}

end Footprints

section Programs

variable {limits : QuotaLimits} {opened : List Charge} {credit : Credit}
variable {failed : ReceiptFailure} {facts : QuotaEvent}

/-- The facts of a transaction name its charges and use no more than was
granted. -/
structure Tallies (facts : QuotaEvent) (opened : List Charge) : Prop where
  named : facts.charges = opened
  covered : ∀ counter, facts.used counter ≤ granted counter opened

theorem Tallies.charge (tallies : Tallies facts opened) (charge : Charge) :
    Tallies (facts ++ [.charged charge]) (opened ++ [charge]) := by
  constructor
  · rw [QuotaEvent.charges_append, tallies.named]
    rfl
  · intro counter
    rw [QuotaEvent.used_append, granted_append]
    exact Nat.add_le_add (tallies.covered counter) (Nat.zero_le _)

/-- What is done after a charge that is not exceeded is covered by it. -/
theorem Tallies.use {use : QuotaUse} {outcome : UsageCounterRow}
    (tallies : Tallies facts opened) (within : outcome.exceeded = false) :
    Tallies (facts ++ [.charged ⟨use.counter, outcome⟩] ++ [.used use])
      (opened ++ [⟨use.counter, outcome⟩]) := by
  constructor
  · rw [QuotaEvent.charges_append, (tallies.charge _).named]
    simp [QuotaEvent.charges]
  · intro counter
    have before := tallies.covered counter
    simp only [QuotaEvent.used_append, QuotaEvent.used_charged,
      QuotaEvent.used_singleton, granted_append, granted_singleton, within,
      and_true]
    omega

section Extraction

variable {now : Timestamp} {accountId submissionId : Uuid}
variable {own : Overlay BotRow}

end Extraction

end Programs

end Quota

end ZaloBot
