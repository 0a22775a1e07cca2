import ZaloBot.ReceiptStatements
import ZaloBot.SessionFootprints

/-!
# Jobs of the bot's database

The calls of the durable-work store on one job, as sessions over the bot's
rows.  A job is addressed by its dedupe key and checked by its id.  The worker
claims one job at a time: which candidate the selection finds, after the checks
of serialization keys, is decided by the environment, and so is the lease token
it draws.  The rows of `job_attempts` are left out.
-/

namespace ZaloBot

open Sessions

namespace Jobs

open Receipts

variable {Event : Type}

/-- The job as it is handed to the worker. -/
def claimedJob (now : Timestamp) (options : ClaimOptions) (token : Uuid)
    (row : JobRow) : ClaimedJob where
  id := row.id
  jobType := row.jobType
  payload := row.payload
  payloadVersion := row.payloadVersion
  attemptNumber := row.attemptCount + 1
  leaseToken := token
  leaseOwner := options.leaseOwner
  leaseDeadline := now + intervalSeconds options.leaseDurationSecs
  dedupeKey := row.dedupeKey
  serializationKey := row.serializationKey

/-- The claim of a locked candidate: an expired lease without attempts left is
buried, everything else is leased. -/
def claimCandidate (now : Timestamp) (options : ClaimOptions) (token : Uuid)
    (dedupeKey : String) (row : JobRow) :
    Statement Event (Option ClaimedJob) :=
  if row.isExhausted then
    .write (BotKey.job dedupeKey)
      (some ((JobRow.markDead now "timeout").apply row)) (pure none)
  else
    .write (BotKey.job dedupeKey)
      (some ((JobRow.markLeased now (row.attemptCount + 1) token
        options).apply row))
      (pure (some (claimedJob now options token row)))

/-- `WorkStore::claim` with a batch limit of one. -/
def claim (event : Event) (now : Timestamp) (options : ClaimOptions)
    (token : Uuid) (candidate : Option String) :
    Statement Event (Option ClaimedJob) :=
  if options.batchLimit ≤ 0 then
    refuse (.validation "batch_limit must be positive")
  else if options.leaseOwner.isEmpty then
    refuse (.validation "lease_owner must not be empty")
  else if options.leaseDurationSecs ≤ 0 then
    refuse (.validation "lease_duration_secs must be positive")
  else
    match candidate with
    | none => do
        .commitTransaction (.dependency "claim commit failed") event
        pure none
    | some dedupeKey => do
        let row ← .selectForUpdate
          (.dependency "claim candidate selection failed")
          (BotKey.job dedupeKey)
          (fun row => row.dedupeKey = dedupeKey && row.isClaimable now)
        let claimed ← match row with
          | none => pure none
          | some row => claimCandidate now options token dedupeKey row
        .commitTransaction (.dependency "claim commit failed") event
        pure claimed

/-- `WorkStore::heartbeat`. -/
def heartbeat (event : Event) (now : Timestamp) (dedupeKey : String)
    (job token : Uuid) (leaseDurationSecs : Int) : Statement Event Unit :=
  if leaseDurationSecs ≤ 0 then
    refuse (.validation "lease_duration_secs must be positive")
  else do
    let updated ← .updateRow (.dependency "heartbeat failed")
      (BotKey.job dedupeKey) (fun row => row.id = job && row.holdsLease token now)
      (JobRow.markRenewed now leaseDurationSecs).apply
    if updated then
      .commitTransaction (.dependency "heartbeat failed") event
    else
      refuse (.conflict "heartbeat rejected for stale lease token")

/-- `WorkStore::complete`. -/
def complete (event : Event) (now : Timestamp) (dedupeKey : String)
    (job token : Uuid) : Statement Event Unit := do
  let updated ← .updateRow (.dependency "complete update failed")
    (BotKey.job dedupeKey) (fun row => row.id = job && row.holdsLease token now)
    (JobRow.markCompleted now).apply
  if updated then
    .commitTransaction (.dependency "complete commit failed") event
  else
    refuse (.conflict "complete rejected for stale or expired lease token")

/-- What `WorkStore::fail` makes of a leased job. -/
def failed (now : Timestamp) (errorClass : ErrorClass) (row : JobRow) :
    JobRow :=
  if isRetryable errorClass && row.attemptCount < row.maxAttempts then
    (JobRow.markRetried now (retryDelaySecs row.attemptCount)
      errorClass.asStr).apply row
  else
    (JobRow.markDead now errorClass.asStr).apply row

/-- `WorkStore::fail`. -/
def fail (event : Event) (now : Timestamp) (dedupeKey : String)
    (job token : Uuid) (errorClass : ErrorClass) : Statement Event Unit := do
  let updated ← .updateRow (.dependency "fail lookup failed")
    (BotKey.job dedupeKey) (fun row => row.id = job && row.holdsLease token now)
    (failed now errorClass)
  if updated then
    .commitTransaction (.dependency "fail commit failed") event
  else
    refuse (.conflict "fail rejected for stale or expired lease token")

/-- What `WorkStore::cancel_by_operator` makes of a job. -/
def cancelled (now : Timestamp) (row : JobRow) : JobRow :=
  if row.state = .queued then
    (JobRow.markCancelledQueued now).apply row
  else
    (JobRow.markCancelledLeased now).apply row

/-- `WorkStore::cancel_by_operator`. -/
def cancelByOperator (event : Event) (now : Timestamp) (dedupeKey : String)
    (job : Uuid) : Statement Event Unit := do
  let row ← .selectForUpdate (.dependency "cancel lookup failed")
    (BotKey.job dedupeKey) (·.id = job)
  match row with
  | none => refuse (.notFound "job not found")
  | some row =>
      if row.state = .queued ∨ row.state = .leased then
        .write (BotKey.job dedupeKey) (some (cancelled now row))
          (.commitTransaction (.dependency "cancel commit failed") event)
      else
        refuse (.conflict "cancel rejected for non-active job state")

/-- `WorkStore::recover_dead`. -/
def recoverDead (event : Event) (now : Timestamp) (dedupeKey : String)
    (job : Uuid) : Statement Event Unit := do
  let updated ← .updateRow (.dependency "recover dead update failed")
    (BotKey.job dedupeKey) (fun row => row.id = job && row.state = .dead)
    (JobRow.markRecovered now).apply
  if updated then
    .commitTransaction (.dependency "recover dead update failed") event
  else
    refuse (.conflict "recover rejected for non-dead job")

section Footprints

variable {writes : ∀ key : BotKey, Option (BotRow key) → Prop}
variable {emits : Event → ∀ key : BotKey, Option (BotRow key) → Prop}
variable {own : Overlay BotRow} {event : Event} {now : Timestamp}
variable {dedupeKey : String} {job token : Uuid}

/-- A claim writes its job and leaves nothing uncommitted. -/
theorem behaves_claim {options : ClaimOptions} {candidate : Option String}
    (free : ∀ dedupeKey row, writes (.job dedupeKey) row) :
    (claim event now options token candidate).Behaves writes emits own
      fun _ last => last = Overlay.none := by
  unfold claim
  split
  · trivial
  split
  · trivial
  split
  · trivial
  cases candidate with
  | none =>
      exact .bind (Session.behaves_commitTransaction rfl)
        fun _ _ nothing => nothing
  | some dedupeKey =>
      refine .andThen (Session.behaves_selectForUpdate fun _ => trivial)
        fun row _ => ?_
      have ends (claimed : Option ClaimedJob) (own : Overlay BotRow) :
          (Session.commitTransaction (.dependency "claim commit failed") event
            >>= fun _ => pure claimed : Statement Event _).Behaves writes
              emits own fun _ last => last = Overlay.none :=
        .bind (Session.behaves_commitTransaction rfl)
          fun _ _ nothing => nothing
      cases row with
      | none => exact ends none _
      | some row =>
          refine .andThen ?_ ends
          unfold claimCandidate
          split
          · exact ⟨free _ _, trivial⟩
          · exact ⟨free _ _, trivial⟩

/-- An update of one job and its commit. -/
theorem behaves_settlement {condition : JobRow → Bool}
    {change : JobRow → JobRow} {lookupFailed commitFailed : ReceiptFailure}
    {rejected : StoreError}
    (free : ∀ row, writes (.job dedupeKey) row) :
    (Session.updateRow lookupFailed (BotKey.job dedupeKey) condition change
      >>= fun updated =>
        if updated then Session.commitTransaction commitFailed event
        else refuse rejected : Statement Event Unit).Behaves writes emits own
          fun _ last => last = Overlay.none := by
  refine .andThen (Session.behaves_updateRow (fun _ => free _) trivial
    fun _ => trivial) fun updated _ => ?_
  cases updated with
  | false => trivial
  | true => exact Session.behaves_commitTransaction rfl

theorem behaves_heartbeat {leaseDurationSecs : Int}
    (free : ∀ row, writes (.job dedupeKey) row) :
    (heartbeat event now dedupeKey job token leaseDurationSecs).Behaves
      writes emits own fun _ last => last = Overlay.none := by
  unfold heartbeat
  split
  · trivial
  · exact behaves_settlement free

theorem behaves_complete (free : ∀ row, writes (.job dedupeKey) row) :
    (complete event now dedupeKey job token).Behaves writes emits own
      fun _ last => last = Overlay.none :=
  behaves_settlement free

theorem behaves_fail {errorClass : ErrorClass}
    (free : ∀ row, writes (.job dedupeKey) row) :
    (fail event now dedupeKey job token errorClass).Behaves writes emits own
      fun _ last => last = Overlay.none :=
  behaves_settlement free

theorem behaves_recoverDead (free : ∀ row, writes (.job dedupeKey) row) :
    (recoverDead event now dedupeKey job).Behaves writes emits own
      fun _ last => last = Overlay.none :=
  behaves_settlement free

theorem behaves_cancelByOperator
    (free : ∀ row, writes (.job dedupeKey) row) :
    (cancelByOperator event now dedupeKey job).Behaves writes emits own
      fun _ last => last = Overlay.none := by
  refine .andThen (Session.behaves_selectForUpdate fun _ => trivial)
    fun row _ => ?_
  cases row with
  | none => trivial
  | some row =>
      dsimp only
      split
      · exact ⟨free _, rfl, trivial⟩
      · trivial

end Footprints

end Jobs

end ZaloBot
