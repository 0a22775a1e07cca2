import ZaloBot.LeaseLedger
import ZaloBot.WorkStore

/-!
# The ledger of a job

Each job of the durable-work tables is abstracted to a lease ledger: its
state becomes a phase and its attempt rows become the attempts, in insertion
order.  The lemmas of this module say what the elementary table changes of
the store do to the ledgers, to the `CHECK` constraints of the tables and to
the attempts that already have an outcome.
-/

namespace ZaloBot

open LeaseLedger

namespace JobRow

/-- The phase a job row stands for. -/
def phase (row : JobRow) : Phase Uuid :=
  match row.state with
  | .queued => .waiting
  | .leased => row.leaseToken.elim .buried .held
  | .completed => .finished
  | .cancelled => .withdrawn
  | .dead => .buried

/-- The two table `CHECK`s of `jobs` that relate columns to the state. -/
structure Checks (row : JobRow) : Prop where
  lease :
    (row.state = .leased ∧ row.leaseToken.isSome ∧ row.leaseOwner.isSome ∧
      row.leaseDeadline.isSome) ∨
    (row.state ≠ .leased ∧ row.leaseToken = none ∧ row.leaseOwner = none ∧
      row.leaseDeadline = none)
  completion :
    ((row.state = .completed ∨ row.state = .cancelled ∨ row.state = .dead) ∧
      row.completedAt.isSome) ∨
    ((row.state = .queued ∨ row.state = .leased) ∧ row.completedAt = none)

variable {row : JobRow}

theorem Checks.completedAt_of_active (checks : row.Checks)
    (active : row.state = .queued ∨ row.state = .leased) :
    row.completedAt = none := by
  rcases checks.completion with ⟨ended, _⟩ | ⟨_, absent⟩
  · rcases active with queued | leased <;> simp_all
  · exact absent

theorem Checks.unleased (checks : row.Checks) (state : row.state ≠ .leased) :
    row.leaseToken = none ∧ row.leaseOwner = none ∧
      row.leaseDeadline = none := by
  rcases checks.lease with ⟨leased, _⟩ | ⟨_, cleared⟩
  · exact absurd leased state
  · exact cleared

theorem markCompleted_checks (now : Timestamp) :
    ((JobRow.markCompleted now).apply row).Checks := by
  constructor <;> simp [markCompleted]

theorem markDead_checks (now : Timestamp) (errorClass : String) :
    ((JobRow.markDead now errorClass).apply row).Checks := by
  constructor <;> simp [markDead]

theorem markCancelledLeased_checks (now : Timestamp) :
    ((JobRow.markCancelledLeased now).apply row).Checks := by
  constructor <;> simp [markCancelledLeased]

theorem markRecovered_checks (now : Timestamp) :
    ((JobRow.markRecovered now).apply row).Checks := by
  constructor <;> simp [markRecovered]

theorem Checks.markCancelledQueued (checks : row.Checks)
    (queued : row.state = .queued) (now : Timestamp) :
    ((JobRow.markCancelledQueued now).apply row).Checks := by
  have cleared := checks.unleased (by simp [queued])
  constructor <;> simp [JobRow.markCancelledQueued, cleared]

theorem Checks.markRetried (checks : row.Checks)
    (leased : row.state = .leased) (now : Timestamp) (delaySecs : Int)
    (errorClass : String) :
    ((JobRow.markRetried now delaySecs errorClass).apply row).Checks := by
  have running := checks.completedAt_of_active (Or.inr leased)
  constructor <;> simp [JobRow.markRetried, running]

theorem Checks.markLeased (checks : row.Checks)
    (active : row.state = .queued ∨ row.state = .leased) (now : Timestamp)
    (attemptNumber : Int) (token : Uuid) (options : ClaimOptions) :
    ((JobRow.markLeased now attemptNumber token options).apply row).Checks := by
  have running := checks.completedAt_of_active active
  constructor <;> simp [JobRow.markLeased, running]

theorem Checks.markRenewed (checks : row.Checks)
    (leased : row.state = .leased) (now : Timestamp)
    (leaseDurationSecs : Int) :
    ((JobRow.markRenewed now leaseDurationSecs).apply row).Checks := by
  have running := checks.completedAt_of_active (Or.inr leased)
  have held : row.leaseToken.isSome ∧ row.leaseOwner.isSome := by
    rcases checks.lease with ⟨_, token, owner, _⟩ | ⟨unleased, _⟩
    · exact ⟨token, owner⟩
    · exact absurd leased unleased
  constructor <;> simp [JobRow.markRenewed, running, leased, held]

theorem state_of_holdsLease {token : Uuid} {now : Timestamp}
    (holds : row.holdsLease token now = true) : row.state = .leased := by
  simp only [holdsLease, Bool.and_eq_true, decide_eq_true_eq] at holds
  exact holds.1.2

theorem leaseToken_of_holdsLease {token : Uuid} {now : Timestamp}
    (holds : row.holdsLease token now = true) :
    row.leaseToken = some token := by
  simp only [holdsLease, Bool.and_eq_true, decide_eq_true_eq] at holds
  exact holds.1.1

theorem phase_of_holdsLease {token : Uuid} {now : Timestamp}
    (holds : row.holdsLease token now = true) : row.phase = .held token := by
  simp [phase, state_of_holdsLease holds, leaseToken_of_holdsLease holds]

/-- A leased row that satisfies its `CHECK`s is held under some token. -/
theorem Checks.phase_of_leased (checks : row.Checks)
    (leased : row.state = .leased) : ∃ token, row.phase = .held token := by
  rcases checks.lease with ⟨_, held, _⟩ | ⟨unleased, _⟩
  · obtain ⟨token, tokenEq⟩ := Option.isSome_iff_exists.mp held
    exact ⟨token, by simp [phase, leased, tokenEq]⟩
  · exact absurd leased unleased

theorem state_of_isDue {now : Timestamp} (due : row.isDue now = true) :
    row.state = .queued := by
  simp only [isDue, Bool.and_eq_true, decide_eq_true_eq] at due
  exact due.1

theorem state_of_isExpired {now : Timestamp}
    (expired : row.isExpired now = true) : row.state = .leased := by
  simp only [isExpired, Bool.and_eq_true, decide_eq_true_eq] at expired
  exact expired.1

end JobRow

/-- An attempt row as an entry of the ledger. -/
def AttemptRow.entry (attempt : AttemptRow) : Attempt Uuid AttemptOutcome :=
  ⟨attempt.leaseToken, attempt.outcome⟩

namespace WorkDb

/-- The attempts of one job, oldest first. -/
def attemptsOf (db : WorkDb) (job : Uuid) : List AttemptRow :=
  db.attempts.rows.filter fun attempt => attempt.jobId = job

/-- The ledger of one job. -/
def ledgerOf (db : WorkDb) (job : Uuid) : Ledger Uuid AttemptOutcome where
  phase := ((db.jobs.find job).map JobRow.phase).getD .absent
  attempts := (db.attemptsOf job).map AttemptRow.entry

/-- The table `CHECK`s, and that an attempt has an end exactly when it has an
outcome. -/
structure Checks (db : WorkDb) : Prop where
  jobs : ∀ row ∈ db.jobs, row.Checks
  attempts : ∀ attempt ∈ db.attempts,
    (attempt.endedAt = none ↔ attempt.outcome = none)

theorem mem_attemptsOf {db : WorkDb} {job : Uuid} {attempt : AttemptRow} :
    attempt ∈ db.attemptsOf job ↔
      attempt ∈ db.attempts ∧ attempt.jobId = job := by
  simp [attemptsOf, Table.mem_def]

theorem ledgerOf_eq_of_found {db : WorkDb} {job : Uuid} {row : JobRow}
    (found : db.jobs.find job = some row) :
    db.ledgerOf job =
      ⟨row.phase, (db.attemptsOf job).map AttemptRow.entry⟩ := by
  simp [ledgerOf, found]

theorem ledgerOf_congr {first second : WorkDb} {job : Uuid}
    (jobs : first.jobs.find job = second.jobs.find job)
    (attempts : first.attemptsOf job = second.attemptsOf job) :
    first.ledgerOf job = second.ledgerOf job := by
  simp [ledgerOf, jobs, attempts]

end WorkDb

/-- What two consecutive states of the queue have to do with each other: each
ledger makes moves, and attempts with an outcome stay as they are. -/
structure WorkEvolves (before after : WorkDb) : Prop where
  moves : ∀ job, Relation.ReflTransGen (Move .completed)
    (before.ledgerOf job) (after.ledgerOf job)
  recorded : ∀ attempt ∈ before.attempts, attempt.outcome.isSome →
    attempt ∈ after.attempts

namespace WorkEvolves

theorem refl (db : WorkDb) : WorkEvolves db db :=
  ⟨fun _ => .refl, fun _ member _ => member⟩

theorem trans {first middle last : WorkDb}
    (before : WorkEvolves first middle) (after : WorkEvolves middle last) :
    WorkEvolves first last :=
  ⟨fun job => (before.moves job).trans (after.moves job),
    fun attempt member closed =>
      after.recorded attempt (before.recorded attempt member closed) closed⟩

/-- A change confined to one job evolves the queue when the ledger of that
job makes a move. -/
theorem of_one_job {before after : WorkDb} (job : Uuid)
    (move : Move .completed (before.ledgerOf job) (after.ledgerOf job))
    (frame : ∀ other, other ≠ job →
      after.ledgerOf other = before.ledgerOf other)
    (recorded : ∀ attempt ∈ before.attempts, attempt.outcome.isSome →
      attempt ∈ after.attempts) : WorkEvolves before after := by
  refine ⟨fun other => ?_, recorded⟩
  by_cases same : other = job
  · subst same
    exact .single move
  · rw [frame other same]

end WorkEvolves

namespace WorkStore

section ElementaryChanges

variable {db : WorkDb} {job : Uuid} {row : JobRow}
variable {guard : JobRow → Bool} {set : Table.Setter JobRow.id}

theorem affectsJob_iff :
    affectsJob job guard db = true ↔
      ∃ row, db.jobs.find job = some row ∧ guard row = true := by
  simp [affectsJob, Option.any_eq_true]

theorem updateJob_find_self (found : db.jobs.find job = some row)
    (selected : guard row = true) :
    (updateJob job guard set db).jobs.find job = some (set.apply row) := by
  simp [updateJob, Table.find_modify_self, found, selected]

theorem updateJob_find_other {other : Uuid} (different : other ≠ job) :
    (updateJob job guard set db).jobs.find other =
      db.jobs.find other :=
  Table.find_modify_other different

@[simp]
theorem updateJob_attempts :
    (updateJob job guard set db).attempts = db.attempts :=
  rfl

@[simp]
theorem updateJob_attemptsOf (other : Uuid) :
    (updateJob job guard set db).attemptsOf other =
      db.attemptsOf other :=
  rfl

theorem updateJob_ledgerOf_other {other : Uuid} (different : other ≠ job) :
    (updateJob job guard set db).ledgerOf other =
      db.ledgerOf other :=
  WorkDb.ledgerOf_congr (updateJob_find_other different) rfl

/-- A conditional update keeps the `CHECK`s when every row it selects gets
a row that satisfies them. -/
theorem updateJob_checks (checks : db.Checks)
    (keeps : ∀ row, row.Checks → guard row = true → (set.apply row).Checks) :
    (updateJob job guard set db).Checks := by
  refine ⟨?_, checks.attempts⟩
  intro row member
  rcases Table.mem_modify member with old | ⟨old, oldMem, _, selected, rfl⟩
  · exact checks.jobs row old
  · exact keeps old (checks.jobs old oldMem) selected

variable {now : Timestamp} {outcome : AttemptOutcome}
variable {errorClass : Option String}

@[simp]
theorem closeOpenAttempt_jobs :
    (closeOpenAttempt now job outcome errorClass db).jobs = db.jobs :=
  rfl

theorem closeOpenAttempt_attemptsOf (other : Uuid) :
    (closeOpenAttempt now job outcome errorClass db).attemptsOf other =
      (db.attemptsOf other).map fun attempt =>
        if attempt.jobId = job && attempt.endedAt.isNone then
          (AttemptRow.markEnded now outcome errorClass).apply attempt
        else
          attempt :=
  Table.filter_update fun _ => rfl

theorem closeOpenAttempt_attemptsOf_other {other : Uuid}
    (different : other ≠ job) :
    (closeOpenAttempt now job outcome errorClass db).attemptsOf other =
      db.attemptsOf other := by
  rw [closeOpenAttempt_attemptsOf]
  conv_rhs => rw [← List.map_id (db.attemptsOf other)]
  apply List.map_congr_left
  intro attempt member
  simp [(WorkDb.mem_attemptsOf.mp member).2, different]

/-- Closing the open attempts of a job closes them in its ledger. -/
theorem closeOpenAttempt_entries_self (checks : db.Checks) :
    ((closeOpenAttempt now job outcome errorClass db).attemptsOf job).map
        AttemptRow.entry =
      closeAll outcome ((db.attemptsOf job).map AttemptRow.entry) := by
  rw [closeOpenAttempt_attemptsOf, closeAll, List.map_map, List.map_map]
  apply List.map_congr_left
  intro attempt member
  obtain ⟨attemptMem, jobEq⟩ := WorkDb.mem_attemptsOf.mp member
  have ended := checks.attempts attempt attemptMem
  cases recorded : attempt.outcome with
  | none =>
      simp [jobEq, ended.mpr recorded, AttemptRow.entry, Attempt.close,
        AttemptRow.markEnded, recorded]
  | some earlier =>
      have closed : attempt.endedAt ≠ none := by
        simp [ended, recorded]
      simp [closed, AttemptRow.entry, Attempt.close, recorded]

theorem closeOpenAttempt_checks (checks : db.Checks) :
    (closeOpenAttempt now job outcome errorClass db).Checks := by
  refine ⟨checks.jobs, ?_⟩
  intro attempt member
  obtain ⟨old, oldMem, rfl⟩ := Table.mem_update.mp member
  split
  · simp [AttemptRow.markEnded]
  · exact checks.attempts old oldMem

theorem closeOpenAttempt_recorded (checks : db.Checks)
    {attempt : AttemptRow} (member : attempt ∈ db.attempts)
    (recorded : attempt.outcome.isSome) :
    attempt ∈ (closeOpenAttempt now job outcome errorClass db).attempts := by
  refine Table.mem_update.mpr ⟨attempt, member, ?_⟩
  have ended : attempt.endedAt ≠ none := by
    intro running
    simp [(checks.attempts attempt member).mp running] at recorded
  simp [ended]

/-- What a successful insertion of an attempt adds. -/
theorem insertAttempt_spec {after : WorkDb} {attempt : AttemptRow}
    (inserted : insertAttempt attempt db = some after) :
    after.jobs = db.jobs ∧
      after.attempts.rows = db.attempts.rows ++ [attempt] := by
  unfold insertAttempt at inserted
  split at inserted
  · contradiction
  · obtain ⟨attempts, insertion, rfl⟩ := Option.map_eq_some_iff.mp inserted
    exact ⟨rfl, (Table.insert_eq_some_iff.mp insertion).2⟩

end ElementaryChanges

section Evolution

variable {db : WorkDb} {job : Uuid} {row : JobRow}
variable {guard : JobRow → Bool} {set : Table.Setter JobRow.id}

/-- Replacing a job's row evolves the queue when its phase makes a move that
leaves the attempts alone. -/
theorem evolves_of_update (found : db.jobs.find job = some row)
    (selected : guard row = true)
    (move : ∀ attempts, Move AttemptOutcome.completed ⟨row.phase, attempts⟩
      ⟨(set.apply row).phase, attempts⟩) :
    WorkEvolves db (updateJob job guard set db) := by
  refine .of_one_job job ?_ (fun _ different =>
    updateJob_ledgerOf_other different) (fun _ member _ => member)
  rw [WorkDb.ledgerOf_eq_of_found found,
    WorkDb.ledgerOf_eq_of_found (updateJob_find_self found selected)]
  exact move _

/-- Ending a lease evolves the queue when the phase makes a move that closes
the attempts. -/
theorem evolves_of_settle {now : Timestamp} {outcome : AttemptOutcome}
    {errorClass : Option String} (checks : db.Checks)
    (found : db.jobs.find job = some row) (selected : guard row = true)
    (move : ∀ attempts, Move AttemptOutcome.completed ⟨row.phase, attempts⟩
      ⟨(set.apply row).phase, closeAll outcome attempts⟩) :
    WorkEvolves db
      (updateJob job guard set
        (closeOpenAttempt now job outcome errorClass db)) := by
  refine .of_one_job job ?_ ?_ ?_
  · have foundAfter : (updateJob job guard set
        (closeOpenAttempt now job outcome errorClass db)).jobs.find job =
          some (set.apply row) :=
      updateJob_find_self found selected
    rw [WorkDb.ledgerOf_eq_of_found found,
      WorkDb.ledgerOf_eq_of_found foundAfter, updateJob_attemptsOf,
      closeOpenAttempt_entries_self checks]
    exact move _
  · intro other different
    rw [updateJob_ledgerOf_other different]
    exact WorkDb.ledgerOf_congr rfl
      (closeOpenAttempt_attemptsOf_other different)
  · intro attempt member recorded
    exact closeOpenAttempt_recorded checks member recorded

end Evolution

end WorkStore

end ZaloBot
