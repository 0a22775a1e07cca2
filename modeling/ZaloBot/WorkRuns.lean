import ZaloBot.LabelledRuns
import ZaloBot.WorkClaiming

/-!
# Runs of the durable-work store

Every call of the store is one transaction that reads the clock once, at its
start.  A run is a sequence of such transactions in commit order, each with
its own clock reading, so that late commits and clock jumps of every kind are
included.  Each call only ever makes ledger moves, and therefore every run
keeps the queue's invariant.
-/

namespace ZaloBot

open LeaseLedger LabelledRuns

/-- A call of the durable-work store. -/
inductive WorkCall where
  | enqueue (request : EnqueueRequest)
  | claim (options : ClaimOptions) (environment : WorkStore.ClaimEnvironment)
  | heartbeat (job token : Uuid) (leaseDurationSecs : Int)
  | complete (job token : Uuid)
  | fail (job token : Uuid) (errorClass : ErrorClass)
  | cancel (job : Uuid) (leaseToken : Option Uuid)
  | cancelByOperator (job : Uuid)
  | cancelQueuedBySerializationKey (serializationKey : String)
      (seen : Uuid → Bool)
  | recoverDead (job : Uuid)

/-- What a call returns. -/
inductive WorkReply where
  | enqueued (outcome : EnqueueOutcome)
  | claimed (jobs : List ClaimedJob)
  | renewed (leaseDeadline : Timestamp)
  | failed (outcome : FailOutcome)
  | cancelledQueued (count : Nat)
  | finished (nothing : Unit)
deriving DecidableEq, Repr

namespace WorkCall

/-- Wrap the value of a transaction body. -/
def reply {Value : Type} (wrap : Value → WorkReply)
    (result : Except StoreError (Value × WorkDb)) :
    Except StoreError (WorkReply × WorkDb) :=
  result.map fun (value, db) => (wrap value, db)

/-- The transaction body of a call. -/
def body (now : Timestamp) (call : WorkCall) (db : WorkDb) :
    Except StoreError (WorkReply × WorkDb) :=
  match call with
  | .enqueue request =>
      reply .enqueued (WorkStore.enqueueInTransaction now request db)
  | .claim options environment =>
      reply .claimed (WorkStore.claim now options environment db)
  | .heartbeat job token leaseDurationSecs =>
      reply .renewed
        (WorkStore.heartbeat now job token leaseDurationSecs db)
  | .complete job token =>
      reply .finished (WorkStore.complete now job token db)
  | .fail job token errorClass =>
      reply .failed (WorkStore.fail now job token errorClass db)
  | .cancel job leaseToken =>
      reply .finished (WorkStore.cancel now job leaseToken db)
  | .cancelByOperator job =>
      reply .finished (WorkStore.cancelByOperator now job db)
  | .cancelQueuedBySerializationKey serializationKey seen =>
      reply .cancelledQueued
        (WorkStore.cancelQueuedBySerializationKey now serializationKey seen
          db)
  | .recoverDead job =>
      reply .finished (WorkStore.recoverDead now job db)

/-- A call as a whole transaction: its result and the committed state. -/
def exec (now : Timestamp) (call : WorkCall) (db : WorkDb) :
    Except StoreError WorkReply × WorkDb :=
  commitOrRollback (body now call) db

/-- The lease token a call presents, with the job it presents it for. -/
def presents : WorkCall → Option (Uuid × Uuid)
  | .heartbeat job token _ => some (job, token)
  | .complete job token => some (job, token)
  | .fail job token _ => some (job, token)
  | .cancel job (some token) => some (job, token)
  | _ => none

/-- The random generator never draws a lease token that an attempt of the
same job already carries. -/
def drawsFreshTokens (call : WorkCall) (db : WorkDb) : Prop :=
  match call with
  | .claim _ environment => ∀ attempt ∈ db.attempts,
      environment.leaseTokenFor attempt.jobId ≠ attempt.leaseToken
  | _ => True

instance : (call : WorkCall) → (db : WorkDb) →
    Decidable (call.drawsFreshTokens db)
  | .claim _ environment, db =>
      inferInstanceAs (Decidable (∀ attempt ∈ db.attempts,
        environment.leaseTokenFor attempt.jobId ≠ attempt.leaseToken))
  | .enqueue _, _ | .heartbeat _ _ _, _ | .complete _ _, _
  | .fail _ _ _, _ | .cancel _ _, _ | .cancelByOperator _, _
  | .cancelQueuedBySerializationKey _ _, _ | .recoverDead _, _ =>
      inferInstanceAs (Decidable True)

end WorkCall

/-- One transaction of a run, labelled by its clock reading and its call. -/
def workStep (db : WorkDb) (label : Timestamp × WorkCall) : Option WorkDb :=
  some (label.2.exec label.1 db).2

/-- Runs of any number of workers and operators. -/
def WorkReaches : WorkDb → WorkDb → Prop :=
  Reaches workStep fun db label => label.2.drawsFreshTokens db

/-- The invariant of the durable-work tables. -/
structure WorkInvariant (db : WorkDb) : Prop where
  checks : db.Checks
  ledgers : ∀ job, WellFormed .completed (db.ledgerOf job)

theorem workInvariant_empty : WorkInvariant WorkDb.empty where
  checks := by
    constructor <;> intro _ member <;> cases member
  ledgers := fun _ => wellFormed_absent _

/-- An evolution that keeps the `CHECK`s keeps the invariant. -/
theorem WorkInvariant.evolve {before after : WorkDb}
    (invariant : WorkInvariant before) (evolves : WorkEvolves before after)
    (checks : after.Checks) : WorkInvariant after :=
  ⟨checks, fun job => (invariant.ledgers job).of_moves (evolves.moves job)⟩

namespace WorkCall

variable {now : Timestamp} {call : WorkCall} {db after : WorkDb}

/-- The call returns an error and changes no row. -/
def Rejected (now : Timestamp) (call : WorkCall) (db : WorkDb) : Prop :=
  ∃ error, call.exec now db = (.error error, db)

theorem reply_eq_ok {Value : Type} {wrap : Value → WorkReply}
    {result : Except StoreError (Value × WorkDb)} {answer : WorkReply}
    (ok : reply wrap result = .ok (answer, after)) :
    ∃ value, result = .ok (value, after) ∧ wrap value = answer := by
  cases result with
  | error _ => contradiction
  | ok pair =>
      obtain ⟨value, inner⟩ := pair
      simp only [reply, Except.map, Except.ok.injEq, Prod.mk.injEq] at ok
      obtain ⟨rfl, rfl⟩ := ok
      exact ⟨value, rfl, rfl⟩

theorem reply_of_error {Value : Type} {wrap : Value → WorkReply}
    {result : Except StoreError (Value × WorkDb)} {error : StoreError}
    (failed : result = .error error) : reply wrap result = .error error := by
  rw [failed]
  rfl

theorem reply_eq_error {Value : Type} {wrap : Value → WorkReply}
    {result : Except StoreError (Value × WorkDb)} {error : StoreError}
    (failed : reply wrap result = .error error) : result = .error error := by
  cases result with
  | error _ =>
      cases failed
      rfl
  | ok pair => contradiction

/-- Every successful call keeps its guarantee. -/
theorem body_guarantee {answer : WorkReply} (checks : db.Checks)
    (fresh : call.drawsFreshTokens db)
    (ok : call.body now db = .ok (answer, after)) :
    WorkGuarantee db after := by
  cases call with
  | enqueue request =>
      obtain ⟨_, done, _⟩ := reply_eq_ok ok
      exact WorkStore.enqueueInTransaction_guarantee checks done
  | claim options environment =>
      obtain ⟨_, done, _⟩ := reply_eq_ok ok
      exact (WorkStore.claim_guarantee checks fresh done).1
  | heartbeat job token leaseDurationSecs =>
      obtain ⟨_, done, _⟩ := reply_eq_ok ok
      exact WorkStore.heartbeat_guarantee checks done
  | complete job token =>
      obtain ⟨_, done, _⟩ := reply_eq_ok ok
      exact WorkStore.complete_guarantee checks done
  | fail job token errorClass =>
      obtain ⟨_, done, _⟩ := reply_eq_ok ok
      exact WorkStore.fail_guarantee checks done
  | cancel job leaseToken =>
      obtain ⟨_, done, _⟩ := reply_eq_ok ok
      exact WorkStore.cancelActive_guarantee checks done
  | cancelByOperator job =>
      obtain ⟨_, done, _⟩ := reply_eq_ok ok
      exact WorkStore.cancelActive_guarantee checks done
  | cancelQueuedBySerializationKey serializationKey seen =>
      obtain ⟨_, done, _⟩ := reply_eq_ok ok
      exact WorkStore.cancelQueuedBySerializationKey_guarantee checks done
  | recoverDead job =>
      obtain ⟨_, done, _⟩ := reply_eq_ok ok
      exact WorkStore.recoverDead_guarantee checks done

/-- Every call, successful or not, keeps the guarantee. -/
theorem exec_guarantee (checks : db.Checks)
    (fresh : call.drawsFreshTokens db) :
    WorkGuarantee db (call.exec now db).2 := by
  cases outcome : call.body now db with
  | error error =>
      rw [exec, commitOrRollback_of_error outcome]
      exact ⟨.refl db, checks⟩
  | ok pair =>
      rw [exec, commitOrRollback_of_ok outcome]
      exact body_guarantee checks fresh outcome

end WorkCall

/-- One transaction keeps the invariant and evolves the queue. -/
theorem workStep_sound {before after : WorkDb}
    {label : Timestamp × WorkCall} (invariant : WorkInvariant before)
    (fresh : label.2.drawsFreshTokens before)
    (stepTo : workStep before label = some after) :
    WorkInvariant after ∧ WorkEvolves before after := by
  simp only [workStep, Option.some.injEq] at stepTo
  subst stepTo
  have guarantee : WorkGuarantee before (label.2.exec label.1 before).2 :=
    WorkCall.exec_guarantee invariant.checks fresh
  exact ⟨invariant.evolve guarantee.evolves guarantee.checks,
    guarantee.evolves⟩

/-- Whole runs keep the invariant. -/
theorem WorkReaches.invariant {before after : WorkDb}
    (run : WorkReaches before after) (initially : WorkInvariant before) :
    WorkInvariant after :=
  Reaches.preserves
    (fun _ _ _ invariant fresh stepTo =>
      (workStep_sound invariant fresh stepTo).1) run initially

/-- Whole runs evolve the queue. -/
theorem WorkReaches.evolves {before after : WorkDb}
    (run : WorkReaches before after) (initially : WorkInvariant before) :
    WorkEvolves before after :=
  Reaches.relates
    (fun _ _ _ invariant fresh stepTo =>
      (workStep_sound invariant fresh stepTo).1)
    WorkEvolves.refl (fun _ _ _ => WorkEvolves.trans)
    (fun _ _ _ invariant fresh stepTo =>
      (workStep_sound invariant fresh stepTo).2) run initially

end ZaloBot
