import ZaloBot.TaskPool
import ZaloBot.WorkRuns

/-!
# Concurrent claim transactions

Claims run side by side under READ COMMITTED.  A claim takes the snapshot of
its candidate selection, locks candidate rows one at a time (skipping rows
that are locked and rechecking rows that have changed), and then handles one
candidate after the other: key set of the batch, advisory lock, recheck, and
the writes.  Its writes stay private until it commits; the unique index over
leased serialization keys, however, sees the entries of open transactions.
Row locks end with the commit, advisory locks only after it.  All other calls
of the store are single transactions that wait for the rows they touch.
-/

namespace ZaloBot

open TaskPool LabelledRuns

/-- An uncommitted entry of `idx_jobs_active_serialization_key`. -/
structure LeaseEntry where
  worker : Nat
  job : Uuid
  serializationKey : String
deriving DecidableEq, Repr

/-- The committed tables, the lock tables and the uncommitted index entries. -/
structure ClaimWorld where
  db : WorkDb
  rowLocks : Uuid → Option Nat
  advisoryLocks : Int → Option Nat
  leaseEntries : List LeaseEntry

/-- Where a claim transaction is. -/
inductive ClaimPhase where
  | selecting (remaining : List JobRow)
  | looping (remaining : List JobRow)
  | keyLocking (serializationKey : String) (candidate : JobRow)
      (remaining : List JobRow)
  | rechecking (serializationKey : String) (candidate : JobRow)
      (remaining : List JobRow)
  | writing (candidate : JobRow) (remaining : List JobRow)
  | published
  | failed (error : StoreError)

/-- An open claim transaction. -/
structure ClaimTx where
  now : Timestamp
  options : ClaimOptions
  environment : WorkStore.ClaimEnvironment
  snapshot : Table JobRow.id
  locked : List JobRow
  keys : List String
  taken : List JobRow
  claimed : List ClaimedJob
  phase : ClaimPhase

/-- What can happen next to a worker. -/
inductive ClaimAction where
  | begin (now : Timestamp) (options : ClaimOptions)
      (environment : WorkStore.ClaimEnvironment)
  | lockRow
  | skipRow
  | advance
  | abort
  | call (now : Timestamp) (call : WorkCall)

namespace ClaimTx

/-- The writes of one handled candidate. -/
def replay (tx : ClaimTx) (db : WorkDb) (candidate : JobRow) : WorkDb :=
  match WorkStore.takeCandidate tx.now tx.options tx.environment candidate
      db with
  | .ok (_, after) => after
  | .error _ => db

/-- What the statements of the transaction see: the committed state under
the transaction's own writes. -/
def view (tx : ClaimTx) (db : WorkDb) : WorkDb :=
  tx.taken.foldl tx.replay db

/-- The rows the candidate selection visits, in order. -/
def candidateOrder (now : Timestamp) (jobs : Table JobRow.id) :
    List JobRow :=
  (jobs.rows.filter (WorkStore.isCandidate now jobs)).insertionSort
    WorkStore.claimOrder

/-- A transaction right after its candidate selection has started. -/
def start (now : Timestamp) (options : ClaimOptions)
    (environment : WorkStore.ClaimEnvironment) (db : WorkDb) : ClaimTx where
  now := now
  options := options
  environment := environment
  snapshot := db.jobs
  locked := []
  keys := []
  taken := []
  claimed := []
  phase := .selecting (candidateOrder now db.jobs)

end ClaimTx

namespace ClaimWorld

/-- The tables after the migrations, without locks. -/
def initial : ClaimWorld where
  db := WorkDb.empty
  rowLocks := fun _ => none
  advisoryLocks := fun _ => none
  leaseEntries := []

/-- Drop the locks of one owner. -/
def releaseLocks {Key : Type} (worker : Nat) (locks : Key → Option Nat) :
    Key → Option Nat :=
  fun key => if locks key = some worker then none else locks key

/-- Publish the transaction's writes; its row locks end with it. -/
def publish (world : ClaimWorld) (worker : Nat) (db : WorkDb) : ClaimWorld :=
  { world with
    db := db
    rowLocks := releaseLocks worker world.rowLocks
    leaseEntries :=
      world.leaseEntries.filter fun entry => entry.worker ≠ worker }

/-- The last step of a committed transaction. -/
def releaseAdvisory (world : ClaimWorld) (worker : Nat) : ClaimWorld :=
  { world with
    advisoryLocks := releaseLocks worker world.advisoryLocks }

/-- Forget everything an uncommitted transaction has done. -/
def rollback (world : ClaimWorld) (worker : Nat) : ClaimWorld :=
  (world.publish worker world.db).releaseAdvisory worker

/-- Another job's entry in the unique index, committed or not. -/
def indexConflict (world : ClaimWorld) (view : WorkDb) (candidate : JobRow) :
    Bool :=
  candidate.leasedElsewhere view.jobs ||
    candidate.serializationKey.any fun serializationKey =>
      world.leaseEntries.any fun entry =>
        entry.serializationKey = serializationKey && entry.job ≠ candidate.id

/-- The index entry a written lease leaves behind. -/
def addEntry (world : ClaimWorld) (worker : Nat) (candidate : JobRow)
    (claimed : Option ClaimedJob) : ClaimWorld :=
  match candidate.serializationKey, claimed with
  | some serializationKey, some _ =>
      { world with
        leaseEntries :=
          ⟨worker, candidate.id, serializationKey⟩ :: world.leaseEntries }
  | _, _ => world

end ClaimWorld

namespace WorkCall

/-- The rows a call locks and may change. -/
def touches (call : WorkCall) (row : JobRow) : Bool :=
  match call with
  | .heartbeat job _ _ | .complete job _ | .fail job _ _ | .cancel job _
  | .cancelByOperator job | .recoverDead job => row.id = job
  | .cancelQueuedBySerializationKey serializationKey seen =>
      WorkStore.queuedUnder serializationKey row && seen row.id
  | .enqueue _ | .claim _ _ => false

def isClaim : WorkCall → Bool
  | .claim _ _ => true
  | _ => false

end WorkCall

namespace ClaimConcurrency

/-- The row is locked by some claim transaction. -/
def isLocked (world : ClaimWorld) (row : JobRow) : Bool :=
  (world.rowLocks row.id).isSome

/-- Visit the next row of the candidate selection: lock it and, when it still
qualifies in its current version, keep it as a candidate. -/
def lockRow (world : ClaimWorld) (worker : Nat) (tx : ClaimTx) :
    Option (ClaimWorld × Option ClaimTx) :=
  match tx.phase with
  | .selecting (visited :: remaining) =>
      if tx.locked.length < tx.options.batchLimit.toNat ∧
          world.rowLocks visited.id = none then
        match world.db.jobs.find visited.id with
        | some row =>
            if WorkStore.isCandidate tx.now tx.snapshot row then
              some
                ({ world with
                    rowLocks :=
                      Function.update world.rowLocks visited.id
                        (some worker) },
                  some
                    { tx with
                      locked := tx.locked ++ [row]
                      phase := .selecting remaining })
            else
              some (world, some { tx with phase := .selecting remaining })
        | none => none
      else
        none
  | _ => none

/-- The row is locked by someone else. -/
def skipRow (world : ClaimWorld) (tx : ClaimTx) :
    Option (ClaimWorld × Option ClaimTx) :=
  match tx.phase with
  | .selecting (_ :: remaining) =>
      some (world, some { tx with phase := .selecting remaining })
  | _ => none

/-- The write statements of a candidate that passed every check. -/
def write (world : ClaimWorld) (worker : Nat) (tx : ClaimTx)
    (candidate : JobRow) (remaining : List JobRow) :
    ClaimWorld × Option ClaimTx :=
  if world.indexConflict (tx.view world.db) candidate then
    (world.rollback worker,
      some { tx with phase := .failed (.dependency "claim update failed") })
  else
    match WorkStore.takeCandidate tx.now tx.options tx.environment candidate
        (tx.view world.db) with
    | .error error =>
        (world.rollback worker, some { tx with phase := .failed error })
    | .ok (claimed, _) =>
        (world.addEntry worker candidate claimed,
          some
            { tx with
              taken := tx.taken ++ [candidate]
              claimed := tx.claimed ++ claimed.toList
              phase := .looping remaining })

/-- The next statement of the transaction; `hash` is
`hashtextextended(key, 0)`. -/
def advance (hash : String → Int) (world : ClaimWorld) (worker : Nat)
    (tx : ClaimTx) : Option (ClaimWorld × Option ClaimTx) :=
  match tx.phase with
  | .selecting remaining =>
      if remaining = [] ∨
          tx.options.batchLimit.toNat ≤ tx.locked.length then
        some (world, some { tx with phase := .looping tx.locked })
      else
        none
  | .looping [] =>
      some (world.publish worker (tx.view world.db),
        some { tx with phase := .published })
  | .looping (candidate :: remaining) =>
      match candidate.serializationKey with
      | none =>
          some (world, some { tx with phase := .writing candidate remaining })
      | some serializationKey =>
          if serializationKey ∈ tx.keys then
            some (world, some { tx with phase := .looping remaining })
          else
            some (world,
              some
                { tx with
                  keys := serializationKey :: tx.keys
                  phase :=
                    .keyLocking serializationKey candidate remaining })
  | .keyLocking serializationKey candidate remaining =>
      if world.advisoryLocks (hash serializationKey) = none ∨
          world.advisoryLocks (hash serializationKey) = some worker then
        some
          ({ world with
              advisoryLocks :=
                Function.update world.advisoryLocks (hash serializationKey)
                  (some worker) },
            some
              { tx with
                phase := .rechecking serializationKey candidate remaining })
      else
        some (world, some { tx with phase := .looping remaining })
  | .rechecking _ candidate remaining =>
      if candidate.leasedElsewhere (tx.view world.db).jobs then
        some (world, some { tx with phase := .looping remaining })
      else
        some (world, some { tx with phase := .writing candidate remaining })
  | .writing candidate remaining =>
      some (write world worker tx candidate remaining)
  | .published => some (world.releaseAdvisory worker, none)
  | .failed _ => some (world, none)

/-- One action of a worker. -/
def act (hash : String → Int) (world : ClaimWorld) (worker : Nat)
    (task : Option ClaimTx) (action : ClaimAction) :
    Option (ClaimWorld × Option ClaimTx) :=
  match task, action with
  | none, .begin now options environment =>
      if 0 < options.batchLimit ∧ options.leaseOwner.isEmpty = false ∧
          0 < options.leaseDurationSecs then
        some (world, some (ClaimTx.start now options environment world.db))
      else
        none
  | some tx, .lockRow => lockRow world worker tx
  | some tx, .skipRow => skipRow world tx
  | some tx, .advance => advance hash world worker tx
  | some tx, .abort =>
      match tx.phase with
      | .published => some (world.releaseAdvisory worker, none)
      | _ => some (world.rollback worker, none)
  | task, .call now call =>
      if call.isClaim = false ∧
          world.db.jobs.rows.all fun row =>
            !(call.touches row && isLocked world row) then
        some ({ world with db := (call.exec now world.db).2 }, task)
      else
        none
  | _, _ => none

/-- Runs of any number of workers. -/
def ClaimReaches (hash : String → Int) :
    Pool ClaimWorld ClaimTx → Pool ClaimWorld ClaimTx → Prop :=
  Reaches (poolStep (act hash)) anyStep

end ClaimConcurrency

end ZaloBot
