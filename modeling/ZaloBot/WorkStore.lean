import Mathlib.Data.List.Sort
import ZaloBot.Transactions
import ZaloBot.WorkTypes

/-!
# The durable-work store

The operations of the queue as transaction bodies over the `jobs` and
`job_attempts` tables.  Every body receives the transaction's start time as
`now`.  What PostgreSQL and the random generator decide while a claim runs
(rows locked by other transactions, taken advisory locks, drawn UUIDs) is a
parameter of the claim.
-/

namespace ZaloBot

namespace JobRow

/-- `SET state = 'completed'`, with the lease columns cleared. -/
def markCompleted (now : Timestamp) : Table.Setter JobRow.id where
  apply row :=
    { row with
      state := .completed
      leaseToken := none
      leaseOwner := none
      leaseDeadline := none
      completedAt := some now
      updatedAt := now }

/-- `SET state = 'queued'` after a retryable failure. -/
def markRetried (now : Timestamp) (delaySecs : Int) (errorClass : String) :
    Table.Setter JobRow.id where
  apply row :=
    { row with
      state := .queued
      runAt := now + intervalSeconds delaySecs
      leaseToken := none
      leaseOwner := none
      leaseDeadline := none
      lastErrorClass := some errorClass
      updatedAt := now }

/-- `SET state = 'dead'`, with the lease columns cleared. -/
def markDead (now : Timestamp) (errorClass : String) :
    Table.Setter JobRow.id where
  apply row :=
    { row with
      state := .dead
      leaseToken := none
      leaseOwner := none
      leaseDeadline := none
      lastErrorClass := some errorClass
      completedAt := some now
      updatedAt := now }

/-- `SET state = 'cancelled'` on a queued row. -/
def markCancelledQueued (now : Timestamp) : Table.Setter JobRow.id where
  apply row :=
    { row with
      state := .cancelled
      completedAt := some now
      updatedAt := now }

/-- `SET state = 'cancelled'` on a leased row, which loses its lease. -/
def markCancelledLeased (now : Timestamp) : Table.Setter JobRow.id where
  apply row :=
    { row with
      state := .cancelled
      leaseToken := none
      leaseOwner := none
      leaseDeadline := none
      completedAt := some now
      updatedAt := now }

/-- `SET state = 'queued'` by `recover_dead`. -/
def markRecovered (now : Timestamp) : Table.Setter JobRow.id where
  apply row :=
    { row with
      state := .queued
      runAt := now
      maxAttempts := max row.maxAttempts (row.attemptCount + 1)
      leaseToken := none
      leaseOwner := none
      leaseDeadline := none
      lastErrorClass := none
      completedAt := none
      updatedAt := now }

/-- `SET state = 'leased'` by `claim`. -/
def markLeased (now : Timestamp) (attemptNumber : Int) (token : Uuid)
    (options : ClaimOptions) : Table.Setter JobRow.id where
  apply row :=
    { row with
      state := .leased
      attemptCount := attemptNumber
      leaseToken := some token
      leaseOwner := some options.leaseOwner
      leaseDeadline := some (now + intervalSeconds options.leaseDurationSecs)
      updatedAt := now }

/-- `SET lease_deadline` by `heartbeat`. -/
def markRenewed (now : Timestamp) (leaseDurationSecs : Int) :
    Table.Setter JobRow.id where
  apply row :=
    { row with
      leaseDeadline := some (now + intervalSeconds leaseDurationSecs)
      updatedAt := now }

end JobRow

/-- `SET ended_at, outcome, error_class` by `close_open_attempt`. -/
def AttemptRow.markEnded (now : Timestamp) (outcome : AttemptOutcome)
    (errorClass : Option String) : Table.Setter AttemptRow.id where
  apply attempt :=
    { attempt with
      endedAt := some now
      outcome := some outcome
      errorClass := errorClass.or attempt.errorClass }

namespace WorkStore

/-- Conditional update of one job: `WHERE id = job AND guard`. -/
def updateJob (job : Uuid) (guard : JobRow → Bool)
    (set : Table.Setter JobRow.id) (db : WorkDb) : WorkDb :=
  { db with jobs := db.jobs.modify job guard set }

/-- Whether a conditional update of one job affects its row. -/
def affectsJob (job : Uuid) (guard : JobRow → Bool) (db : WorkDb) : Bool :=
  (db.jobs.find job).any guard

/-- `close_open_attempt`. -/
def closeOpenAttempt (now : Timestamp) (job : Uuid)
    (outcome : AttemptOutcome) (errorClass : Option String) (db : WorkDb) :
    WorkDb :=
  { db with
    attempts :=
      db.attempts.update
        (fun attempt => attempt.jobId = job && attempt.endedAt.isNone)
        (AttemptRow.markEnded now outcome errorClass) }

/-- `payload_version`. -/
def payloadVersion (payload : Payload) : Except StoreError Int :=
  match payload.schemaVersion with
  | some version =>
      if 0 < version ∧ version ≤ 2147483647 then
        .ok version
      else
        .error (.validation "payload must include positive schema_version")
  | none =>
      .error (.validation "payload must include positive schema_version")

/-- A text that must be nonblank and at most `limit` characters long. -/
def hasInvalidLength (limit : Nat) (text : String) : Bool :=
  RustText.isBlank text || limit < RustText.charCount text

/-- `validate_enqueue_request`. -/
def validateEnqueueRequest (request : EnqueueRequest) :
    Except StoreError Int :=
  match payloadVersion request.payload with
  | .error error => .error error
  | .ok version =>
      if request.maxAttempts ≤ 0 then
        .error (.validation "max_attempts must be positive")
      else if hasInvalidLength 128 request.jobType then
        .error (.validation "job_type has invalid length")
      else if hasInvalidLength 512 request.dedupeKey then
        .error (.validation "dedupe_key has invalid length")
      else if request.serializationKey.any (hasInvalidLength 512) then
        .error (.validation "serialization_key has invalid length")
      else
        .ok version

/-- The row that `enqueue_in_transaction` inserts. -/
def queuedRow (now : Timestamp) (payloadVersion : Int)
    (request : EnqueueRequest) : JobRow where
  id := request.id
  jobType := request.jobType
  payload := request.payload
  payloadVersion := payloadVersion
  state := .queued
  priority := request.priority
  runAt := request.runAt
  dedupeKey := request.dedupeKey
  serializationKey := request.serializationKey
  attemptCount := 0
  maxAttempts := request.maxAttempts
  leaseToken := none
  leaseOwner := none
  leaseDeadline := none
  lastErrorClass := none
  createdAt := now
  updatedAt := now
  completedAt := none

/-- `enqueue_in_transaction`: the dedupe key decides first, then the primary
key. -/
def enqueueInTransaction (now : Timestamp) (request : EnqueueRequest)
    (db : WorkDb) : Except StoreError (EnqueueOutcome × WorkDb) :=
  match validateEnqueueRequest request with
  | .error error => .error error
  | .ok version =>
      if db.jobs.rows.any (·.dedupeKey = request.dedupeKey) then
        .ok (.duplicate, db)
      else
        match db.jobs.insert (queuedRow now version request) with
        | none =>
            .error (.conflict "active serialization key already reserved")
        | some jobs => .ok (.enqueued, { db with jobs := jobs })

/-- What the environment decides during one claim: rows and advisory locks
held by other transactions, and the UUIDs drawn for each candidate job. -/
structure ClaimEnvironment where
  rowLocked : Uuid → Bool
  advisoryTaken : String → Bool
  leaseTokenFor : Uuid → Uuid
  attemptIdFor : Uuid → Uuid

/-- The `WHERE` clause of the candidate selection. -/
def isCandidate (now : Timestamp) (jobs : Table JobRow.id) (row : JobRow) :
    Bool :=
  row.isClaimable now &&
    (row.serializationKey.isNone || row.state = .leased ||
      !jobs.rows.any fun active =>
        active.serializationKey = row.serializationKey &&
          active.state = .leased)

/-- `ORDER BY priority DESC, run_at ASC, created_at ASC`. -/
def claimOrder (first second : JobRow) : Prop :=
  second.priority < first.priority ∨
    (second.priority = first.priority ∧
      (first.runAt < second.runAt ∨
        (first.runAt = second.runAt ∧ first.createdAt ≤ second.createdAt)))

instance : DecidableRel claimOrder := fun _ _ =>
  inferInstanceAs (Decidable (_ ∨ _))

/-- The candidate selection: ordered, skipping locked rows, limited. -/
def candidates (now : Timestamp) (options : ClaimOptions)
    (environment : ClaimEnvironment) (db : WorkDb) : List JobRow :=
  (((db.jobs.rows.filter (isCandidate now db.jobs)).insertionSort
    claimOrder).filter fun row => !environment.rowLocked row.id).take
      options.batchLimit.toNat

/-- The checks a candidate with a serialization key goes through: the key set
of the batch, the advisory lock and the recheck for another lease. -/
def passesSerialization (environment : ClaimEnvironment) (keys : List String)
    (candidate : JobRow) (db : WorkDb) : Bool :=
  candidate.serializationKey.all fun serializationKey =>
    serializationKey ∉ keys && !environment.advisoryTaken serializationKey &&
      !candidate.leasedElsewhere db.jobs

/-- `claimed_serialization_keys` after a candidate. -/
def keysAfter (keys : List String) (candidate : JobRow) : List String :=
  match candidate.serializationKey with
  | none => keys
  | some serializationKey =>
      if serializationKey ∈ keys then keys else serializationKey :: keys

/-- The attempt row of a new lease. -/
def attemptRow (now : Timestamp) (options : ClaimOptions)
    (environment : ClaimEnvironment) (candidate : JobRow) : AttemptRow where
  id := environment.attemptIdFor candidate.id
  jobId := candidate.id
  attemptNumber := candidate.attemptCount + 1
  leaseToken := environment.leaseTokenFor candidate.id
  leaseOwner := options.leaseOwner
  startedAt := now
  endedAt := none
  outcome := none
  errorClass := none

/-- The job as it is handed to the worker. -/
def claimedJob (now : Timestamp) (options : ClaimOptions)
    (environment : ClaimEnvironment) (candidate : JobRow) : ClaimedJob where
  id := candidate.id
  jobType := candidate.jobType
  payload := candidate.payload
  payloadVersion := candidate.payloadVersion
  attemptNumber := candidate.attemptCount + 1
  leaseToken := environment.leaseTokenFor candidate.id
  leaseOwner := options.leaseOwner
  leaseDeadline := now + intervalSeconds options.leaseDurationSecs
  dedupeKey := candidate.dedupeKey
  serializationKey := candidate.serializationKey

/-- Insert an attempt; its id and its number within the job are unique. -/
def insertAttempt (attempt : AttemptRow) (db : WorkDb) : Option WorkDb :=
  if db.attempts.rows.any fun other =>
      other.jobId = attempt.jobId &&
        other.attemptNumber = attempt.attemptNumber then
    none
  else
    (db.attempts.insert attempt).map fun attempts =>
      { db with attempts := attempts }

/-- The lease update of one candidate. -/
def leaseUpdate (now : Timestamp) (options : ClaimOptions)
    (environment : ClaimEnvironment) (candidate : JobRow) (db : WorkDb) :
    WorkDb :=
  updateJob candidate.id (JobRow.isClaimable now)
    (JobRow.markLeased now (candidate.attemptCount + 1)
      (environment.leaseTokenFor candidate.id) options) db

/-- The lease update and the attempt insertion of one candidate.  The update
aborts the claim when the unique index over leased serialization keys already
holds the key. -/
def leaseCandidate (now : Timestamp) (options : ClaimOptions)
    (environment : ClaimEnvironment) (candidate : JobRow) (db : WorkDb) :
    Except StoreError (Option ClaimedJob × WorkDb) :=
  if affectsJob candidate.id (JobRow.isClaimable now) db then
    if candidate.leasedElsewhere db.jobs then
      .error (.dependency "claim update failed")
    else
      match insertAttempt (attemptRow now options environment candidate)
          (leaseUpdate now options environment candidate db) with
      | none => .error (.dependency "claim attempt insert failed")
      | some after =>
          .ok (some (claimedJob now options environment candidate), after)
  else
    .ok (none, db)

/-- The body of the claim loop after the serialization checks. -/
def takeCandidate (now : Timestamp) (options : ClaimOptions)
    (environment : ClaimEnvironment) (candidate : JobRow) (db : WorkDb) :
    Except StoreError (Option ClaimedJob × WorkDb) :=
  if candidate.state = .leased then
    let closed := closeOpenAttempt now candidate.id .lostLease none db
    if candidate.attemptCount ≥ candidate.maxAttempts then
      .ok (none,
        updateJob candidate.id (JobRow.isExpired now)
          (JobRow.markDead now "timeout") closed)
    else
      leaseCandidate now options environment candidate closed
  else
    leaseCandidate now options environment candidate db

/-- The claim loop. -/
def claimLoop (now : Timestamp) (options : ClaimOptions)
    (environment : ClaimEnvironment) :
    List JobRow → List String → WorkDb →
      Except StoreError (List ClaimedJob × WorkDb)
  | [], _, db => .ok ([], db)
  | candidate :: rest, keys, db =>
      if passesSerialization environment keys candidate db then
        (takeCandidate now options environment candidate db).bind
          fun (claimed, next) =>
            (claimLoop now options environment rest
              (keysAfter keys candidate) next).bind
                fun (others, after) => .ok (claimed.toList ++ others, after)
      else
        claimLoop now options environment rest (keysAfter keys candidate) db

/-- `WorkStore::claim`. -/
def claim (now : Timestamp) (options : ClaimOptions)
    (environment : ClaimEnvironment) (db : WorkDb) :
    Except StoreError (List ClaimedJob × WorkDb) :=
  if options.batchLimit ≤ 0 then
    .error (.validation "batch_limit must be positive")
  else if options.leaseOwner.isEmpty then
    .error (.validation "lease_owner must not be empty")
  else if options.leaseDurationSecs ≤ 0 then
    .error (.validation "lease_duration_secs must be positive")
  else
    claimLoop now options environment (candidates now options environment db)
      [] db

/-- `WorkStore::heartbeat`. -/
def heartbeat (now : Timestamp) (job token : Uuid) (leaseDurationSecs : Int)
    (db : WorkDb) : Except StoreError (Timestamp × WorkDb) :=
  if leaseDurationSecs ≤ 0 then
    .error (.validation "lease_duration_secs must be positive")
  else if affectsJob job (JobRow.holdsLease token now) db then
    .ok (now + intervalSeconds leaseDurationSecs,
      updateJob job (JobRow.holdsLease token now)
        (JobRow.markRenewed now leaseDurationSecs) db)
  else
    .error (.conflict "heartbeat rejected for stale lease token")

/-- `WorkStore::complete`. -/
def complete (now : Timestamp) (job token : Uuid) (db : WorkDb) :
    Except StoreError (Unit × WorkDb) :=
  if affectsJob job (JobRow.holdsLease token now) db then
    .ok ((), closeOpenAttempt now job .completed none
      (updateJob job (JobRow.holdsLease token now)
        (JobRow.markCompleted now) db))
  else
    .error (.conflict "complete rejected for stale or expired lease token")

/-- The guard of the updates that follow the locked lookup of `fail`. -/
def stillLeased (token : Uuid) (row : JobRow) : Bool :=
  row.leaseToken = some token && row.state = .leased

/-- `WorkStore::fail`. -/
def fail (now : Timestamp) (job token : Uuid) (errorClass : ErrorClass)
    (db : WorkDb) : Except StoreError (FailOutcome × WorkDb) :=
  match (db.jobs.find job).filter (JobRow.holdsLease token now) with
  | none => .error (.conflict "fail rejected for stale or expired lease token")
  | some row =>
      let closed :=
        closeOpenAttempt now job .failed (some errorClass.asStr) db
      if isRetryable errorClass && row.attemptCount < row.maxAttempts then
        .ok (.retried,
          updateJob job (stillLeased token)
            (JobRow.markRetried now (retryDelaySecs row.attemptCount)
              errorClass.asStr) closed)
      else
        .ok (.deadLettered,
          updateJob job (stillLeased token)
            (JobRow.markDead now errorClass.asStr) closed)

/-- The leased branch of `cancel_active` once the update is chosen. -/
def cancelLeased (now : Timestamp) (job : Uuid) (guard : JobRow → Bool)
    (db : WorkDb) : Except StoreError (Unit × WorkDb) :=
  if affectsJob job guard db then
    .ok ((), closeOpenAttempt now job .cancelled none
      (updateJob job guard (JobRow.markCancelledLeased now)
        db))
  else
    .error (.conflict "cancel rejected for stale or expired lease token")

/-- `cancel_active`. -/
def cancelActive (now : Timestamp) (job : Uuid) (leaseToken : Option Uuid)
    (operatorOverride : Bool) (db : WorkDb) :
    Except StoreError (Unit × WorkDb) :=
  match db.jobs.find job with
  | none => .error (.notFound "job not found")
  | some row =>
      match row.state with
      | .queued =>
          if leaseToken.isSome then
            .error (.validation
              "queued cancellation must not include a lease token")
          else
            .ok ((), updateJob job (fun row => row.state = .queued)
              (JobRow.markCancelledQueued now) db)
      | .leased =>
          if operatorOverride then
            cancelLeased now job (fun row => row.state = .leased) db
          else
            match leaseToken with
            | none =>
                .error (.validation
                  "leased cancellation requires the current lease token")
            | some token =>
                cancelLeased now job (JobRow.holdsLease token now) db
      | _ => .error (.conflict "cancel rejected for non-active job state")

/-- `WorkStore::cancel`. -/
def cancel (now : Timestamp) (job : Uuid) (leaseToken : Option Uuid)
    (db : WorkDb) : Except StoreError (Unit × WorkDb) :=
  cancelActive now job leaseToken false db

/-- `WorkStore::cancel_by_operator`. -/
def cancelByOperator (now : Timestamp) (job : Uuid) (db : WorkDb) :
    Except StoreError (Unit × WorkDb) :=
  cancelActive now job none true db

/-- A queued job of a serialization key. -/
def queuedUnder (serializationKey : String) (row : JobRow) : Bool :=
  row.serializationKey = some serializationKey && row.state = .queued

/-- `cancel_queued_by_serialization_key_in_transaction`.  The statement does
not see rows that were committed after it started: `seen` selects the others. -/
def cancelQueuedBySerializationKey (now : Timestamp)
    (serializationKey : String) (seen : Uuid → Bool) (db : WorkDb) :
    Except StoreError (Nat × WorkDb) :=
  let affected := fun row : JobRow =>
    queuedUnder serializationKey row && seen row.id
  .ok (db.jobs.rows.countP affected,
    { db with
      jobs := db.jobs.update affected (JobRow.markCancelledQueued now) })

/-- `WorkStore::recover_dead`. -/
def recoverDead (now : Timestamp) (job : Uuid) (db : WorkDb) :
    Except StoreError (Unit × WorkDb) :=
  if affectsJob job (fun row => row.state = .dead) db then
    .ok ((), updateJob job (fun row => row.state = .dead)
      (JobRow.markRecovered now) db)
  else
    .error (.conflict "recover rejected for non-dead job")

end WorkStore

end ZaloBot
