import Mathlib.Algebra.Order.Monoid.Unbundled.Pow
import Mathlib.Algebra.Order.Ring.Int
import ZaloBot.ErrorClass
import ZaloBot.KeyedTable
import ZaloBot.RustText

/-!
# Durable-work rows, requests and retry policy

The `jobs` and `job_attempts` tables, the request and result types of the
durable-work store, and the pure retry policy.  Job payloads are JSON objects
with an integer `schema_version` and text members, which is what every
producer builds.
-/

namespace ZaloBot

/-- A job payload: the value of `schema_version` when it is an integer, and
the text members of the object. -/
structure Payload where
  schemaVersion : Option Int
  members : List (String × String)
deriving DecidableEq, Repr

inductive JobState where
  | queued
  | leased
  | completed
  | cancelled
  | dead
deriving DecidableEq, Repr

inductive AttemptOutcome where
  | completed
  | failed
  | cancelled
  | lostLease
  | superseded
deriving DecidableEq, Repr

/-- One row of `jobs`. -/
structure JobRow where
  id : Uuid
  jobType : String
  payload : Payload
  payloadVersion : Int
  state : JobState
  priority : Int
  runAt : Timestamp
  dedupeKey : String
  serializationKey : Option String
  attemptCount : Int
  maxAttempts : Int
  leaseToken : Option Uuid
  leaseOwner : Option String
  leaseDeadline : Option Timestamp
  lastErrorClass : Option String
  createdAt : Timestamp
  updatedAt : Timestamp
  completedAt : Option Timestamp
deriving DecidableEq, Repr

/-- One row of `job_attempts`. -/
structure AttemptRow where
  id : Uuid
  jobId : Uuid
  attemptNumber : Int
  leaseToken : Uuid
  leaseOwner : String
  startedAt : Timestamp
  endedAt : Option Timestamp
  outcome : Option AttemptOutcome
  errorClass : Option String
deriving DecidableEq, Repr

/-- The two tables of the durable-work queue. -/
structure WorkDb where
  jobs : Table JobRow.id
  attempts : Table AttemptRow.id
deriving DecidableEq

/-- The queue right after the migrations. -/
def WorkDb.empty : WorkDb :=
  ⟨Table.empty, Table.empty⟩

structure EnqueueRequest where
  id : Uuid
  jobType : String
  payload : Payload
  dedupeKey : String
  serializationKey : Option String
  priority : Int
  runAt : Timestamp
  maxAttempts : Int
deriving DecidableEq, Repr

inductive EnqueueOutcome where
  | enqueued
  | duplicate
deriving DecidableEq, Repr

structure ClaimOptions where
  batchLimit : Int
  leaseOwner : String
  leaseDurationSecs : Int
deriving DecidableEq, Repr

/-- A leased job as the claiming worker receives it. -/
structure ClaimedJob where
  id : Uuid
  jobType : String
  payload : Payload
  payloadVersion : Int
  attemptNumber : Int
  leaseToken : Uuid
  leaseOwner : String
  leaseDeadline : Timestamp
  dedupeKey : String
  serializationKey : Option String
deriving DecidableEq, Repr

inductive FailOutcome where
  | retried
  | deadLettered
deriving DecidableEq, Repr

/-- Whether a classified error schedules another attempt. -/
def isRetryable : ErrorClass → Bool
  | .transient | .timeout | .rateLimited | .dependency | .providerError => true
  | _ => false

/-- Bounded exponential backoff for retry scheduling. -/
def retryDelaySecs (attemptCount : Int) : Int :=
  let base : Int := 1
  let maximum : Int := 300
  let exponent := (max 0 (min (attemptCount - 1) 8)).toNat
  min (base * 2 ^ exponent) maximum

namespace JobRow

/-- The guard shared by every call that presents a lease token:
`lease_token = $2 AND state = 'leased' AND lease_deadline >= NOW()`. -/
def holdsLease (token : Uuid) (now : Timestamp) (row : JobRow) : Bool :=
  row.leaseToken = some token && row.state = .leased &&
    row.leaseDeadline.any (now ≤ ·)

/-- `state = 'queued' AND run_at <= NOW()`. -/
def isDue (now : Timestamp) (row : JobRow) : Bool :=
  row.state = .queued && row.runAt ≤ now

/-- `state = 'leased' AND lease_deadline < NOW()`. -/
def isExpired (now : Timestamp) (row : JobRow) : Bool :=
  row.state = .leased && row.leaseDeadline.any (· < now)

/-- A due job or an expired lease: what a claim may take. -/
def isClaimable (now : Timestamp) (row : JobRow) : Bool :=
  row.isDue now || row.isExpired now

/-- An expired lease that a claim buries instead of renewing. -/
def isExhausted (row : JobRow) : Bool :=
  row.state = .leased && row.maxAttempts ≤ row.attemptCount

/-- Another row holds a lease under the same serialization key. -/
def leasedElsewhere (row : JobRow) (jobs : Table JobRow.id) : Bool :=
  row.serializationKey.any fun serializationKey =>
    jobs.rows.any fun active =>
      active.serializationKey = some serializationKey &&
        active.state = .leased && active.id ≠ row.id

end JobRow

end ZaloBot
