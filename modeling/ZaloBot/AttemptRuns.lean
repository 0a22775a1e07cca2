import ZaloBot.AttemptAccounting

/-!
# Attempts along whole runs

Claims keep the accounts as well, so every run does.  A claim that draws fresh
identifiers finds the number of its attempt free and its serialization keys
unleased, and no call returns the error of a statement that a constraint
refuses.
-/

namespace ZaloBot

namespace WorkDb.Accounted

open WorkStore

variable {db after : WorkDb} {now : Timestamp}

section Claims

variable {options : ClaimOptions} {environment : ClaimEnvironment}
variable {candidate : JobRow}

/-- The attempts a new attempt of a candidate is appended to. -/
theorem prepared_attemptsOf (accounted : db.Accounted) (now : Timestamp)
    (found : db.jobs.find candidate.id = some candidate) :
    let prepared := preparedFor now candidate db
    (prepared.attemptsOf candidate.id).map AttemptRow.attemptNumber =
        (db.attemptsOf candidate.id).map AttemptRow.attemptNumber ∧
      (∀ attempt ∈ prepared.attemptsOf candidate.id,
        (attempt.endedAt = none ↔ attempt.outcome = none)) ∧
      ∀ attempt ∈ prepared.attemptsOf candidate.id,
        attempt.outcome.isSome := by
  unfold preparedFor
  split
  · exact closed_attemptsOf accounted.checks now candidate.id .lostLease none
  · rename_i unleased
    have accounts := accounted.accounts candidate.id candidate found
    exact ⟨rfl, accounts.ended, accounts.released unleased⟩

theorem state_of_isClaimable (active : candidate.isClaimable now = true) :
    candidate.state = .queued ∨ candidate.state = .leased := by
  simp only [JobRow.isClaimable, Bool.or_eq_true] at active
  exact active.imp JobRow.state_of_isDue JobRow.state_of_isExpired

theorem preparedFor_ids {attempt : AttemptRow}
    (member : attempt ∈ (preparedFor now candidate db).attempts) :
    ∃ before ∈ db.attempts, before.id = attempt.id := by
  unfold preparedFor at member
  split at member
  · obtain ⟨old, wasMember, rfl⟩ := Table.mem_update.mp member
    refine ⟨old, wasMember, ?_⟩
    split <;> rfl
  · exact ⟨attempt, member, rfl⟩

/-- A candidate that is leased has an attempt left. -/
theorem remaining_of_not_exhausted (accounted : db.Accounted)
    (found : db.jobs.find candidate.id = some candidate)
    (active : candidate.isClaimable now = true)
    (notExhausted : candidate.isExhausted = false) :
    candidate.attemptCount < candidate.maxAttempts := by
  rcases state_of_isClaimable active with queued | leased
  · exact (accounted.accounts candidate.id candidate found).remaining queued
  · simpa [JobRow.isExhausted, leased] using notExhausted

theorem taken (accounted : db.Accounted) {claimed : Option ClaimedJob}
    (found : db.jobs.find candidate.id = some candidate)
    (active : candidate.isClaimable now = true)
    (ok : takeCandidate now options environment candidate db =
      .ok (claimed, after)) : after.Accounted := by
  have changes := takeCandidate_changesOnly found active ok
  rcases takeCandidate_ok found active ok with
    ⟨_, expired, _, rfl⟩ | ⟨_, notExhausted, unshared, inserted⟩
  · exact accounted.settles found expired .lostLease none
      (JobRow.markDead_checks _ _) rfl rfl rfl (by simp [JobRow.markDead])
      (by simp [JobRow.markDead]) rfl rfl
  · have accounts := accounted.accounts candidate.id candidate found
    have remaining :=
      accounted.remaining_of_not_exhausted found active notExhausted
    obtain ⟨numbers, ended, outcomes⟩ :=
      accounted.prepared_attemptsOf now found
    refine accounted.replaced found (leased_find found active inserted)
      changes ?_ rfl rfl fun _ => Or.inr unshared
    rw [insertAttempt_attemptsOf inserted]
    simp only [attemptRow, if_true]
    exact accounts.leased
      (accounts.checks.markLeased (state_of_isClaimable active) _ _ _ _) rfl
      rfl rfl remaining rfl rfl rfl ⟨rfl, rfl⟩ numbers ended outcomes

theorem looped (accounted : db.Accounted) {remaining : List JobRow}
    {keys : List String} {claimed : List ClaimedJob}
    (found : ClaimTx.Found now remaining db)
    (ok : claimLoop now options environment remaining keys db =
      .ok (claimed, after)) : after.Accounted := by
  induction remaining generalizing keys db claimed with
  | nil =>
      simp only [claimLoop, Except.ok.injEq, Prod.mk.injEq] at ok
      obtain ⟨rfl, rfl⟩ := ok
      exact accounted
  | cons candidate rest ih =>
      unfold claimLoop at ok
      split at ok
      · obtain ⟨⟨takes, middle⟩, took, ok⟩ := except_bind_eq_ok.mp ok
        obtain ⟨⟨others, final⟩, loops, ok⟩ := except_bind_eq_ok.mp ok
        simp only [Except.ok.injEq, Prod.mk.injEq] at ok
        obtain ⟨rfl, rfl⟩ := ok
        have isFound := found.found candidate (by simp)
        have active := found.active candidate (by simp)
        exact ih (accounted.taken isFound active took)
          (found.after_head
            (takeCandidate_changesOnly isFound active took).jobs) loops
      · exact ih accounted (found.after_head fun _ _ => rfl) ok

theorem candidates_areFound :
    ClaimTx.Found now (candidates now options environment db) db where
  found candidate member := (candidates_found.1 candidate member).1
  active candidate member := (candidates_found.1 candidate member).2
  nodup := candidates_found.2

theorem claimed (accounted : db.Accounted) {jobs : List ClaimedJob}
    (ok : claim now options environment db = .ok (jobs, after)) :
    after.Accounted := by
  unfold claim at ok
  split at ok
  · contradiction
  · split at ok
    · contradiction
    · split at ok
      · contradiction
      · exact accounted.looped candidates_areFound ok

/-- The new attempt of a candidate has a number of its own, and with an
identifier of its own it is inserted. -/
theorem inserts (accounted : db.Accounted)
    (found : db.jobs.find candidate.id = some candidate)
    (fresh : ∀ attempt ∈ db.attempts,
      attempt.id ≠ environment.attemptIdFor candidate.id) :
    insertAttempt (attemptRow now options environment candidate)
      (leaseUpdate now options environment candidate
        (preparedFor now candidate db)) ≠ none := by
  have accounts := accounted.accounts candidate.id candidate found
  obtain ⟨numbers, _⟩ := accounted.prepared_attemptsOf now found
  have numbered := accounts.numbered.of_numbers numbers
  have length : ((preparedFor now candidate db).attemptsOf
      candidate.id).length = (db.attemptsOf candidate.id).length := by
    simpa using congrArg List.length numbers
  have untaken : ¬ ((preparedFor now candidate db).attempts.rows.any
      fun other => other.jobId = candidate.id &&
        other.attemptNumber = candidate.attemptCount + 1) = true := by
    intro taken
    simp only [List.any_eq_true, Bool.and_eq_true, decide_eq_true_eq] at taken
    obtain ⟨other, member, sameJob, sameNumber⟩ := taken
    have bounds := numbered.mem_iff.mp ⟨other,
      WorkDb.mem_attemptsOf.mpr ⟨member, sameJob⟩, sameNumber⟩
    rw [accounts.counted, length] at bounds
    omega
  unfold insertAttempt
  rw [if_neg]
  · rw [ne_eq, Option.map_eq_none_iff, Table.insert_eq_none_iff]
    rintro ⟨old, member, sameId⟩
    obtain ⟨before, wasMember, isId⟩ := preparedFor_ids member
    exact fresh before wasMember (isId.trans sameId)
  · exact untaken

/-- A candidate without a rival lease is handled without an error. -/
theorem takes (accounted : db.Accounted)
    (found : db.jobs.find candidate.id = some candidate)
    (free : candidate.leasedElsewhere db.jobs = false)
    (fresh : ∀ attempt ∈ db.attempts,
      attempt.id ≠ environment.attemptIdFor candidate.id) :
    ∃ claimed after, takeCandidate now options environment candidate db =
      .ok (claimed, after) := by
  have leasing (prepared : WorkDb)
      (isPrepared : prepared = preparedFor now candidate db) :
      ∃ claimed after, leaseCandidate now options environment candidate
        prepared = .ok (claimed, after) := by
    subst isPrepared
    unfold leaseCandidate
    split
    · rw [preparedFor_jobs, free]
      obtain ⟨after, inserted⟩ :=
        Option.ne_none_iff_exists.mp (accounted.inserts found fresh)
      rw [← inserted]
      exact ⟨_, _, rfl⟩
    · exact ⟨_, _, rfl⟩
  unfold takeCandidate
  split
  · rename_i leased
    dsimp only
    split
    · exact ⟨_, _, rfl⟩
    · exact leasing _ (by rw [preparedFor, if_pos leased])
  · rename_i unleased
    exact leasing _ (by rw [preparedFor, if_neg unleased])

/-- A handled candidate adds its own attempt only. -/
theorem takeCandidate_ids {claimed : Option ClaimedJob}
    (found : db.jobs.find candidate.id = some candidate)
    (active : candidate.isClaimable now = true)
    (ok : takeCandidate now options environment candidate db =
      .ok (claimed, after)) {attempt : AttemptRow}
    (member : attempt ∈ after.attempts) :
    attempt.id = environment.attemptIdFor candidate.id ∨
      ∃ before ∈ db.attempts, before.id = attempt.id := by
  rcases takeCandidate_ok found active ok with
    ⟨_, expired, _, rfl⟩ | ⟨_, _, _, inserted⟩
  · obtain ⟨old, wasMember, rfl⟩ := Table.mem_update.mp member
    refine Or.inr ⟨old, wasMember, ?_⟩
    split <;> rfl
  · rw [Table.mem_def, (insertAttempt_spec inserted).2, List.mem_append,
      List.mem_singleton] at member
    rcases member with old | rfl
    · exact Or.inr (preparedFor_ids old)
    · exact Or.inl rfl

/-- Candidates that get attempts with identifiers of their own. -/
structure FreshIds (environment : ClaimEnvironment) (remaining : List JobRow)
    (db : WorkDb) : Prop where
  unused : ∀ candidate ∈ remaining, ∀ attempt ∈ db.attempts,
    attempt.id ≠ environment.attemptIdFor candidate.id
  distinct : ∀ first ∈ remaining, ∀ second ∈ remaining,
    environment.attemptIdFor first.id = environment.attemptIdFor second.id →
      first.id = second.id

theorem FreshIds.after_head {rest : List JobRow}
    (fresh : FreshIds environment (candidate :: rest) db)
    (nodup : ((candidate :: rest).map JobRow.id).Nodup)
    (ids : ∀ attempt ∈ after.attempts,
      attempt.id = environment.attemptIdFor candidate.id ∨
        ∃ before ∈ db.attempts, before.id = attempt.id) :
    FreshIds environment rest after where
  unused other member attempt inTable same := by
    rcases ids attempt inTable with isHead | ⟨before, wasMember, sameId⟩
    · have sameJob := fresh.distinct candidate (by simp) other
        (by simp [member]) (isHead.symm.trans same)
      exact (List.nodup_cons.mp nodup).1
        (sameJob ▸ List.mem_map_of_mem member)
    · exact fresh.unused other (by simp [member]) before wasMember
        (sameId.trans same)
  distinct first member second memberOther :=
    fresh.distinct first (by simp [member]) second (by simp [memberOther])

theorem free_of_passesSerialization {keys : List String}
    (passes : passesSerialization environment keys candidate db = true) :
    candidate.leasedElsewhere db.jobs = false := by
  unfold passesSerialization at passes
  cases key : candidate.serializationKey with
  | none => simp [JobRow.leasedElsewhere, key]
  | some serializationKey =>
      rw [key] at passes
      simp only [Option.all_some, Bool.and_eq_true, Bool.not_eq_true']
        at passes
      exact passes.2

/-- The claim loop ends without an error. -/
theorem loops (accounted : db.Accounted) {remaining : List JobRow}
    {keys : List String} (found : ClaimTx.Found now remaining db)
    (fresh : FreshIds environment remaining db) :
    ∃ claimed after, claimLoop now options environment remaining keys db =
      .ok (claimed, after) := by
  induction remaining generalizing keys db with
  | nil => exact ⟨_, _, rfl⟩
  | cons candidate rest ih =>
      unfold claimLoop
      split
      · rename_i passes
        have isFound := found.found candidate (by simp)
        have active := found.active candidate (by simp)
        have handles : ∃ claimed middle, takeCandidate now options
            environment candidate db = .ok (claimed, middle) :=
          accounted.takes isFound (free_of_passesSerialization passes)
            (fresh.unused candidate (by simp))
        obtain ⟨claimed, middle, took⟩ := handles
        have goesOn : ∃ others after, claimLoop now options environment rest
            (keysAfter keys candidate) middle = .ok (others, after) :=
          ih (accounted.taken isFound active took)
            (found.after_head
              (takeCandidate_changesOnly isFound active took).jobs)
            (fresh.after_head found.nodup fun attempt =>
              takeCandidate_ids isFound active took)
        obtain ⟨others, after, looped⟩ := goesOn
        rw [took]
        simp only [Except.bind, looped]
        exact ⟨_, _, rfl⟩
      · exact ih accounted (found.after_head fun _ _ => rfl)
          (fresh.after_head found.nodup fun attempt member =>
            Or.inr ⟨attempt, member, rfl⟩)

end Claims

end WorkDb.Accounted

/-- The `CHECK` and `UNIQUE` constraints of the two tables, their primary keys
aside. -/
structure WorkDb.Constraints (db : WorkDb) : Prop where
  jobs : ∀ row ∈ db.jobs, row.Checks ∧ 0 < row.payloadVersion ∧
    0 ≤ row.attemptCount ∧ 0 < row.maxAttempts
  dedupeKeys : ∀ row ∈ db.jobs, ∀ other ∈ db.jobs,
    row.dedupeKey = other.dedupeKey → row = other
  serializationKeys : ∀ row ∈ db.jobs, ∀ other ∈ db.jobs,
    row.state = .leased → other.state = .leased →
    row.serializationKey.isSome →
    row.serializationKey = other.serializationKey → row = other
  attempts : ∀ attempt ∈ db.attempts, 0 < attempt.attemptNumber
  attemptNumbers : ∀ attempt ∈ db.attempts, ∀ other ∈ db.attempts,
    attempt.jobId = other.jobId →
    attempt.attemptNumber = other.attemptNumber → attempt = other

theorem WorkDb.Accounted.constraints {db : WorkDb}
    (accounted : db.Accounted) : db.Constraints := by
  have numbered {attempt : AttemptRow} (member : attempt ∈ db.attempts) :
      NumberedFromOne (db.attemptsOf attempt.jobId) := by
    obtain ⟨row, found⟩ :=
      Option.isSome_iff_exists.mp (accounted.owned attempt member)
    exact (accounted.accounts attempt.jobId row found).numbered
  refine ⟨?_, ?_, ?_, ?_, ?_⟩
  · intro row member
    have accounts :=
      accounted.accounts row.id row (Table.find_of_mem member)
    exact ⟨accounts.checks, accounts.version,
      by rw [accounts.counted]; omega, accounts.limit⟩
  · intro row member other memberOther same
    exact Table.eq_of_key_eq member memberOther
      (accounted.dedupeKeys row.id other.id row other
        (Table.find_of_mem member) (Table.find_of_mem memberOther) same)
  · intro row member other memberOther leased leasedOther hasKey same
    obtain ⟨key, isKey⟩ := Option.isSome_iff_exists.mp hasKey
    exact Table.eq_of_key_eq member memberOther
      (accounted.serializationKeys row.id other.id key
        ⟨row, Table.find_of_mem member, leased, isKey⟩
        ⟨other, Table.find_of_mem memberOther, leasedOther, same ▸ isKey⟩)
  · intro attempt member
    have bounds := (numbered member).mem_iff.mp
      ⟨attempt, WorkDb.mem_attemptsOf.mpr ⟨member, rfl⟩, rfl⟩
    omega
  · intro attempt member other memberOther sameJob sameNumber
    exact (numbered member).unique
      (WorkDb.mem_attemptsOf.mpr ⟨member, rfl⟩)
      (WorkDb.mem_attemptsOf.mpr ⟨memberOther, sameJob.symm⟩) sameNumber

namespace WorkCall

open WorkDb.Accounted LabelledRuns

variable {now : Timestamp} {call : WorkCall} {db after : WorkDb}

/-- Every successful call keeps the accounts. -/
theorem body_accounted {answer : WorkReply} (accounted : db.Accounted)
    (ok : call.body now db = .ok (answer, after)) : after.Accounted := by
  cases call with
  | enqueue request =>
      obtain ⟨_, done, _⟩ := reply_eq_ok ok
      exact accounted.enqueued done
  | claim options environment =>
      obtain ⟨_, done, _⟩ := reply_eq_ok ok
      exact accounted.claimed done
  | heartbeat job token leaseDurationSecs =>
      obtain ⟨_, done, _⟩ := reply_eq_ok ok
      exact accounted.renewed done
  | complete job token =>
      obtain ⟨_, done, _⟩ := reply_eq_ok ok
      exact accounted.completed done
  | fail job token errorClass =>
      obtain ⟨_, done, _⟩ := reply_eq_ok ok
      exact accounted.failed done
  | cancel job leaseToken =>
      obtain ⟨_, done, _⟩ := reply_eq_ok ok
      exact accounted.cancelled done
  | cancelByOperator job =>
      obtain ⟨_, done, _⟩ := reply_eq_ok ok
      exact accounted.cancelled done
  | cancelQueuedBySerializationKey serializationKey seen =>
      obtain ⟨_, done, _⟩ := reply_eq_ok ok
      exact accounted.cancelledQueued done
  | recoverDead job =>
      obtain ⟨_, done, _⟩ := reply_eq_ok ok
      exact accounted.recovered done

theorem exec_accounted (accounted : db.Accounted) :
    (call.exec now db).2.Accounted := by
  cases outcome : call.body now db with
  | error error =>
      rw [exec, commitOrRollback_of_error outcome]
      exact accounted
  | ok pair =>
      rw [exec, commitOrRollback_of_ok outcome]
      exact body_accounted accounted outcome

/-- The errors of a statement whose rows a constraint refuses: the unique
violation of an insertion into `jobs`, and the failures of the two writes of a
claim. -/
def constraintFailures : List StoreError :=
  [.conflict "active serialization key already reserved",
    .dependency "claim update failed",
    .dependency "claim attempt insert failed"]

/-- The identifiers of new rows are not in use. -/
def drawsFreshIds (call : WorkCall) (db : WorkDb) : Prop :=
  match call with
  | .enqueue request => db.jobs.find request.id = none
  | .claim _ environment =>
      (∀ row ∈ db.jobs, ∀ attempt ∈ db.attempts,
        attempt.id ≠ environment.attemptIdFor row.id) ∧
      ∀ row ∈ db.jobs, ∀ other ∈ db.jobs,
        environment.attemptIdFor row.id = environment.attemptIdFor other.id →
          row.id = other.id
  | _ => True

theorem payloadVersion_error {payload : Payload} {error : StoreError}
    (failed : WorkStore.payloadVersion payload = .error error) :
    error.errorClass = .validation := by
  unfold WorkStore.payloadVersion at failed
  split at failed
  · split at failed
    · contradiction
    · cases failed
      rfl
  · cases failed
    rfl

theorem validateEnqueueRequest_error {request : EnqueueRequest}
    {error : StoreError}
    (failed : WorkStore.validateEnqueueRequest request = .error error) :
    error.errorClass = .validation := by
  unfold WorkStore.validateEnqueueRequest at failed
  split at failed
  · rename_i invalid
    cases failed
    exact payloadVersion_error invalid
  · repeat' split at failed
    all_goals
      cases failed
    all_goals rfl

theorem not_constraintFailure_of_validation {error : StoreError}
    (validation : error.errorClass = .validation) :
    error ∉ constraintFailures := by
  intro member
  simp only [constraintFailures, List.mem_cons, List.not_mem_nil,
    or_false] at member
  rcases member with rfl | rfl | rfl <;> contradiction

theorem enqueue_meets_no_constraint {request : EnqueueRequest}
    {error : StoreError} (fresh : db.jobs.find request.id = none)
    (failed : WorkStore.enqueueInTransaction now request db = .error error) :
    error ∉ constraintFailures := by
  unfold WorkStore.enqueueInTransaction at failed
  split at failed
  · rename_i invalid
    cases failed
    exact not_constraintFailure_of_validation
      (validateEnqueueRequest_error invalid)
  · split at failed
    · contradiction
    · split at failed
      · rename_i taken
        obtain ⟨old, member, sameId⟩ := Table.insert_eq_none_iff.mp taken
        exact absurd sameId (Table.find_eq_none_iff.mp fresh old member)
      · contradiction

theorem claim_meets_no_constraint (accounted : db.Accounted)
    {options : ClaimOptions} {environment : WorkStore.ClaimEnvironment}
    {error : StoreError}
    (fresh : (WorkCall.claim options environment).drawsFreshIds db)
    (failed : WorkStore.claim now options environment db = .error error) :
    error ∉ constraintFailures := by
  have isRow {candidate : JobRow} (member : candidate ∈
      WorkStore.candidates now options environment db) :
      candidate ∈ db.jobs :=
    Table.mem_of_find (WorkStore.candidates_found.1 candidate member).1
  have freshIds : FreshIds environment
      (WorkStore.candidates now options environment db) db :=
    ⟨fun candidate member => fresh.1 candidate (isRow member),
      fun first member second memberOther =>
        fresh.2 first (isRow member) second (isRow memberOther)⟩
  have succeeds : ∃ claimed after, WorkStore.claimLoop now options
      environment (WorkStore.candidates now options environment db) [] db =
        .ok (claimed, after) :=
    accounted.loops candidates_areFound freshIds
  unfold WorkStore.claim at failed
  split at failed
  · cases failed
    decide
  · split at failed
    · cases failed
      decide
    · split at failed
      · cases failed
        decide
      · obtain ⟨claimed, after, ok⟩ := succeeds
        rw [ok] at failed
        contradiction

theorem cancelActive_meets_no_constraint {job : Uuid}
    {leaseToken : Option Uuid} {operatorOverride : Bool} {error : StoreError}
    (failed : WorkStore.cancelActive now job leaseToken operatorOverride db =
      .error error) : error ∉ constraintFailures := by
  have leased (guard : JobRow → Bool)
      (failed : WorkStore.cancelLeased now job guard db = .error error) :
      error ∉ constraintFailures := by
    unfold WorkStore.cancelLeased at failed
    split at failed
    · contradiction
    · cases failed
      decide
  unfold WorkStore.cancelActive at failed
  split at failed
  · cases failed
    decide
  · split at failed
    · split at failed
      · cases failed
        decide
      · contradiction
    · split at failed
      · exact leased _ failed
      · split at failed
        · cases failed
          decide
        · exact leased _ failed
    · cases failed
      decide

/-- A call that draws fresh identifiers meets no row that a constraint
refuses. -/
theorem body_meets_no_constraint {error : StoreError}
    (accounted : db.Accounted) (fresh : call.drawsFreshIds db)
    (failed : call.body now db = .error error) :
    error ∉ constraintFailures := by
  cases call with
  | enqueue request =>
      exact enqueue_meets_no_constraint fresh (reply_eq_error failed)
  | claim options environment =>
      exact claim_meets_no_constraint accounted fresh (reply_eq_error failed)
  | heartbeat job token leaseDurationSecs =>
      have rejected := reply_eq_error failed
      unfold WorkStore.heartbeat at rejected
      split at rejected
      · cases rejected
        decide
      · split at rejected
        · contradiction
        · cases rejected
          decide
  | complete job token =>
      have rejected := reply_eq_error failed
      unfold WorkStore.complete at rejected
      split at rejected
      · contradiction
      · cases rejected
        decide
  | fail job token errorClass =>
      have rejected := reply_eq_error failed
      unfold WorkStore.fail at rejected
      split at rejected
      · cases rejected
        decide
      · dsimp only at rejected
        split at rejected <;> contradiction
  | cancel job leaseToken =>
      exact cancelActive_meets_no_constraint (reply_eq_error failed)
  | cancelByOperator job =>
      exact cancelActive_meets_no_constraint (reply_eq_error failed)
  | cancelQueuedBySerializationKey serializationKey seen =>
      have rejected := reply_eq_error failed
      contradiction
  | recoverDead job =>
      have rejected := reply_eq_error failed
      unfold WorkStore.recoverDead at rejected
      split at rejected
      · contradiction
      · cases rejected
        decide

/-- Every run keeps the accounts. -/
theorem accounted_of_reaches
    (run : Reaches workStep anyStep WorkDb.empty db) : db.Accounted := by
  have keeps : ∀ before label after, WorkDb.Accounted before → True →
      workStep before label = some after → WorkDb.Accounted after := by
    intro before label after accounted _ stepTo
    simp only [workStep, Option.some.injEq] at stepTo
    subst stepTo
    exact exec_accounted accounted
  exact Reaches.preserves keeps run .empty

/-- In every state that calls of the store reach at any times: the attempts of
a job are numbered from one to its counter; one of them is without outcome
exactly when the job is leased, and then it is the only one, the last one, and
carries the token of the lease; the counter stays within the limit, and below
it while the job is queued; and the lease columns and the completion time are
set exactly in the states they belong to.  Hence no call that draws fresh
identifiers returns the error of a refused row, and what it writes satisfies
every constraint of the two tables. -/
theorem attempts_are_accounted
    (run : Reaches workStep anyStep WorkDb.empty db) :
    (∀ row ∈ db.jobs,
      (0 ≤ row.attemptCount ∧
        (db.attemptsOf row.id).map AttemptRow.attemptNumber =
          (List.range row.attemptCount.toNat).map
            fun index : Nat => (index : Int) + 1) ∧
      ((∃ attempt ∈ db.attemptsOf row.id, attempt.outcome = none) ↔
        row.state = .leased) ∧
      (∀ attempt ∈ db.attemptsOf row.id, attempt.outcome = none →
        attempt.attemptNumber = row.attemptCount ∧
        row.leaseToken = some attempt.leaseToken ∧
        ∀ other ∈ db.attemptsOf row.id, other.outcome = none →
          other = attempt) ∧
      row.attemptCount ≤ row.maxAttempts ∧
      (row.state = .queued → row.attemptCount < row.maxAttempts) ∧
      (row.leaseToken.isSome ↔ row.state = .leased) ∧
      (row.leaseOwner.isSome ↔ row.state = .leased) ∧
      (row.leaseDeadline.isSome ↔ row.state = .leased) ∧
      (row.completedAt.isSome ↔ row.state = .completed ∨
        row.state = .cancelled ∨ row.state = .dead)) ∧
    ∀ now (call : WorkCall), call.drawsFreshIds db →
      (∀ error, call.body now db = .error error →
        error ∉ constraintFailures) ∧
      (call.exec now db).2.Constraints := by
  have accounted := accounted_of_reaches run
  refine ⟨?_, ?_⟩
  · intro row member
    have accounts :=
      accounted.accounts row.id row (Table.find_of_mem member)
    refine ⟨⟨?_, ?_⟩, ⟨?_, ?_⟩, ?_, accounts.bounded, accounts.remaining, ?_⟩
    · rw [accounts.counted]
      omega
    · rw [accounts.numbered, accounts.counted, Int.toNat_natCast]
    · rintro ⟨attempt, listed, running⟩
      exact (accounts.of_open listed running).1
    · intro leased
      obtain ⟨earlier, last, isList, _, running, _⟩ := accounts.held leased
      exact ⟨last, by simp [isList], running⟩
    · intro attempt listed running
      obtain ⟨_, number, token⟩ := accounts.of_open listed running
      refine ⟨number, token, fun other listedOther runningOther => ?_⟩
      exact accounts.numbered.unique listedOther listed
        ((accounts.of_open listedOther runningOther).2.1.trans number.symm)
    · have lease := accounts.checks.lease
      have completion := accounts.checks.completion
      cases state : row.state <;> simp_all
  · intro now call fresh
    exact ⟨fun error failed => body_meets_no_constraint accounted fresh failed,
      (exec_accounted accounted).constraints⟩

/-- A job is leased, fails, is claimed again and dies with its second
attempt, and an operator recovers it. -/
def recoveredRun : List (Timestamp × WorkCall) :=
  let claim (token attempt : String) : WorkCall :=
    .claim ⟨1, "worker", 10⟩
      ⟨fun _ => false, fun _ => false, fun _ => ⟨token⟩, fun _ => ⟨attempt⟩⟩
  [(0, .enqueue ⟨⟨"job"⟩, "receipt.ingest", ⟨some 1, []⟩, "dedupe", none, 0, 0,
      2⟩),
    (0, claim "first" "attempt-1"),
    (1, .fail ⟨"job"⟩ ⟨"first"⟩ .transient),
    (2000000, claim "second" "attempt-2"),
    (20000000, claim "third" "attempt-3"),
    (20000001, .recoverDead ⟨"job"⟩)]

theorem attempts_are_accounted_recovered :
    ∃ db, runLabels workStep WorkDb.empty recoveredRun = some db ∧
      ∃ row ∈ db.jobs, row.state = .queued ∧
        row.attemptCount < row.maxAttempts ∧
        (db.attemptsOf row.id).map AttemptRow.attemptNumber = [1, 2] := by
  have accounts := (attempts_are_accounted
    (reaches_of_runLabels (permits_anyStep _ recoveredRun) rfl)).1
  refine ⟨_, rfl, _, List.mem_singleton.mpr rfl, rfl, ?_, ?_⟩
  · exact (accounts _ (List.mem_singleton.mpr rfl)).2.2.2.2.1 rfl
  · exact (accounts _ (List.mem_singleton.mpr rfl)).1.2

end WorkCall

end ZaloBot
