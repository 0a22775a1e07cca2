import ZaloBot.ClaimViews

/-!
# The accounts of the attempts

The counter, the lease columns and the attempt log of a job are written by
different statements.  In every state that transactions reach they agree: the
attempts of a job are numbered from one to its counter, the last one is open
exactly while the job is leased, and the counter stays within the limit.  Hence
no statement meets a row that a constraint of the two tables refuses.
-/

namespace ZaloBot

/-- Attempts numbered from one on, in the order of their insertion. -/
def NumberedFromOne (attempts : List AttemptRow) : Prop :=
  attempts.map AttemptRow.attemptNumber =
    (List.range attempts.length).map fun index : Nat => (index : Int) + 1

theorem NumberedFromOne.of_numbers {attempts others : List AttemptRow}
    (numbered : NumberedFromOne attempts)
    (same : others.map AttemptRow.attemptNumber =
      attempts.map AttemptRow.attemptNumber) : NumberedFromOne others := by
  have length : others.length = attempts.length := by
    simpa using congrArg List.length same
  rw [NumberedFromOne, same, numbered, length]

theorem NumberedFromOne.append {attempts : List AttemptRow}
    {attempt : AttemptRow} (numbered : NumberedFromOne attempts)
    (next : attempt.attemptNumber = attempts.length + 1) :
    NumberedFromOne (attempts ++ [attempt]) := by
  rw [NumberedFromOne, List.map_append, numbered]
  simp [List.range_succ, next]

theorem NumberedFromOne.mem_iff {attempts : List AttemptRow}
    (numbered : NumberedFromOne attempts) {number : Int} :
    (∃ attempt ∈ attempts, attempt.attemptNumber = number) ↔
      1 ≤ number ∧ number ≤ attempts.length := by
  have listed : (∃ attempt ∈ attempts, attempt.attemptNumber = number) ↔
      number ∈ attempts.map AttemptRow.attemptNumber := by
    simp
  rw [listed, numbered, List.mem_map]
  constructor
  · rintro ⟨index, member, rfl⟩
    rw [List.mem_range] at member
    omega
  · rintro ⟨lower, upper⟩
    exact ⟨(number - 1).toNat, List.mem_range.mpr (by omega), by omega⟩

theorem NumberedFromOne.nodup {attempts : List AttemptRow}
    (numbered : NumberedFromOne attempts) :
    (attempts.map AttemptRow.attemptNumber).Nodup := by
  rw [numbered]
  refine List.nodup_range.map ?_
  intro first second same
  simpa using same

theorem NumberedFromOne.last {earlier : List AttemptRow} {last : AttemptRow}
    (numbered : NumberedFromOne (earlier ++ [last])) :
    last.attemptNumber = (earlier ++ [last]).length := by
  have ends := congrArg List.getLast? numbered
  simpa [List.range_succ] using ends

/-- Attempts with one number are one attempt. -/
theorem NumberedFromOne.unique {attempts : List AttemptRow}
    (numbered : NumberedFromOne attempts) {first second : AttemptRow}
    (member : first ∈ attempts) (memberOther : second ∈ attempts)
    (same : first.attemptNumber = second.attemptNumber) : first = second :=
  List.inj_on_of_nodup_map numbered.nodup member memberOther same

/-- The attempts agree with the row of their job. -/
structure JobRow.Accounts (row : JobRow) (attempts : List AttemptRow) :
    Prop where
  checks : row.Checks
  version : 0 < row.payloadVersion
  limit : 0 < row.maxAttempts
  counted : row.attemptCount = attempts.length
  bounded : row.attemptCount ≤ row.maxAttempts
  remaining : row.state = .queued → row.attemptCount < row.maxAttempts
  numbered : NumberedFromOne attempts
  ended : ∀ attempt ∈ attempts,
    (attempt.endedAt = none ↔ attempt.outcome = none)
  released : row.state ≠ .leased → ∀ attempt ∈ attempts,
    attempt.outcome.isSome
  held : row.state = .leased → ∃ earlier last,
    attempts = earlier ++ [last] ∧
    (∀ attempt ∈ earlier, attempt.outcome.isSome) ∧
    last.outcome = none ∧ row.leaseToken = some last.leaseToken

namespace JobRow.Accounts

variable {row next : JobRow} {attempts : List AttemptRow}

/-- A row that keeps its lease or stays without one. -/
theorem rewritten (accounts : row.Accounts attempts) (checks : next.Checks)
    (version : next.payloadVersion = row.payloadVersion)
    (count : next.attemptCount = row.attemptCount)
    (limit : row.maxAttempts ≤ next.maxAttempts)
    (remaining : next.state = .queued →
      next.attemptCount < next.maxAttempts)
    (lease : (next.state = .leased ∧ row.state = .leased ∧
        next.leaseToken = row.leaseToken) ∨
      (next.state ≠ .leased ∧ row.state ≠ .leased)) :
    next.Accounts attempts where
  checks := checks
  version := version ▸ accounts.version
  limit := accounts.limit.trans_le limit
  counted := count ▸ accounts.counted
  bounded := (count ▸ accounts.bounded).trans limit
  remaining := remaining
  numbered := accounts.numbered
  ended := accounts.ended
  released unleased := by
    rcases lease with ⟨leased, _⟩ | ⟨_, wasUnleased⟩
    · exact absurd leased unleased
    · exact accounts.released wasUnleased
  held leased := by
    rcases lease with ⟨_, wasLeased, token⟩ | ⟨unleased, _⟩
    · obtain ⟨earlier, last, isList, closed, open_, held⟩ :=
        accounts.held wasLeased
      exact ⟨earlier, last, isList, closed, open_, token ▸ held⟩
    · exact absurd leased unleased

/-- A row that loses its lease while its open attempt is closed. -/
theorem settled {closed : List AttemptRow} (accounts : row.Accounts attempts)
    (checks : next.Checks)
    (version : next.payloadVersion = row.payloadVersion)
    (count : next.attemptCount = row.attemptCount)
    (limit : next.maxAttempts = row.maxAttempts)
    (remaining : next.state = .queued →
      row.attemptCount < row.maxAttempts)
    (unleased : next.state ≠ .leased)
    (numbers : closed.map AttemptRow.attemptNumber =
      attempts.map AttemptRow.attemptNumber)
    (ended : ∀ attempt ∈ closed,
      (attempt.endedAt = none ↔ attempt.outcome = none))
    (outcomes : ∀ attempt ∈ closed, attempt.outcome.isSome) :
    next.Accounts closed where
  checks := checks
  version := version ▸ accounts.version
  limit := limit ▸ accounts.limit
  counted := by
    have length : closed.length = attempts.length := by
      simpa using congrArg List.length numbers
    rw [count, length, accounts.counted]
  bounded := by
    rw [count, limit]
    exact accounts.bounded
  remaining queued := by
    rw [count, limit]
    exact remaining queued
  numbered := accounts.numbered.of_numbers numbers
  ended := ended
  released _ := outcomes
  held leased := absurd leased unleased

/-- A row that gets a lease and an open attempt after closed ones. -/
theorem leased {closed : List AttemptRow} {attempt : AttemptRow}
    (accounts : row.Accounts attempts) (checks : next.Checks)
    (version : next.payloadVersion = row.payloadVersion)
    (count : next.attemptCount = row.attemptCount + 1)
    (limit : next.maxAttempts = row.maxAttempts)
    (remaining : row.attemptCount < row.maxAttempts)
    (isLeased : next.state = .leased)
    (token : next.leaseToken = some attempt.leaseToken)
    (number : attempt.attemptNumber = row.attemptCount + 1)
    (unfinished : attempt.endedAt = none ∧ attempt.outcome = none)
    (numbers : closed.map AttemptRow.attemptNumber =
      attempts.map AttemptRow.attemptNumber)
    (ended : ∀ attempt ∈ closed,
      (attempt.endedAt = none ↔ attempt.outcome = none))
    (outcomes : ∀ attempt ∈ closed, attempt.outcome.isSome) :
    next.Accounts (closed ++ [attempt]) := by
  have length : closed.length = attempts.length := by
    simpa using congrArg List.length numbers
  refine ⟨checks, version ▸ accounts.version, limit ▸ accounts.limit, ?_, ?_,
    ?_, ?_, ?_, ?_, ?_⟩
  · rw [count, accounts.counted, ← length]
    simp
  · omega
  · intro queued
    rw [isLeased] at queued
    contradiction
  · refine (accounts.numbered.of_numbers numbers).append ?_
    rw [number, accounts.counted, length]
  · intro other member
    rcases List.mem_append.mp member with old | new
    · exact ended other old
    · rw [List.mem_singleton.mp new]
      simp [unfinished]
  · exact fun unleased => absurd isLeased unleased
  · exact fun _ => ⟨closed, attempt, rfl, outcomes, unfinished.2, token⟩

/-- The open attempt is the last one. -/
theorem of_open (accounts : row.Accounts attempts) {attempt : AttemptRow}
    (member : attempt ∈ attempts) (running : attempt.outcome = none) :
    row.state = .leased ∧ attempt.attemptNumber = row.attemptCount ∧
      row.leaseToken = some attempt.leaseToken := by
  have leased : row.state = .leased := by
    refine not_not.mp fun unleased => ?_
    have closed := accounts.released unleased attempt member
    rw [running] at closed
    contradiction
  obtain ⟨earlier, last, rfl, closed, _, token⟩ := accounts.held leased
  rcases List.mem_append.mp member with old | isLast
  · have isClosed := closed attempt old
    rw [running] at isClosed
    contradiction
  · rw [List.mem_singleton.mp isLast]
    exact ⟨leased, accounts.numbered.last.trans accounts.counted.symm, token⟩

end JobRow.Accounts

/-- Every job has its accounts, every attempt has its job, and the unique
indexes over dedupe keys and leased serialization keys hold. -/
structure WorkDb.Accounted (db : WorkDb) : Prop where
  accounts : ∀ job row, db.jobs.find job = some row →
    row.Accounts (db.attemptsOf job)
  owned : ∀ attempt ∈ db.attempts, (db.jobs.find attempt.jobId).isSome
  dedupeKeys : ∀ first second row other, db.jobs.find first = some row →
    db.jobs.find second = some other → row.dedupeKey = other.dedupeKey →
      first = second
  serializationKeys : ∀ first second serializationKey,
    db.Leased first serializationKey → db.Leased second serializationKey →
      first = second

namespace WorkDb.Accounted

open WorkStore

variable {db after : WorkDb} {job : Uuid} {row next : JobRow}

theorem empty : WorkDb.empty.Accounted where
  accounts job row found := by simp [WorkDb.empty] at found
  owned attempt member := by cases member
  dedupeKeys first second row other found := by simp [WorkDb.empty] at found
  serializationKeys first second serializationKey leased := by
    obtain ⟨row, found, _⟩ := leased
    simp [WorkDb.empty] at found

theorem checks (accounted : db.Accounted) : db.Checks where
  jobs row member :=
    (accounted.accounts row.id row (Table.find_of_mem member)).checks
  attempts attempt member := by
    obtain ⟨row, found⟩ :=
      Option.isSome_iff_exists.mp (accounted.owned attempt member)
    exact (accounted.accounts attempt.jobId row found).ended attempt
      (WorkDb.mem_attemptsOf.mpr ⟨member, rfl⟩)

/-- A change of one job that leaves its keys alone and gives it a lease only
where no other job holds one under its serialization key. -/
theorem replaced (accounted : db.Accounted)
    (found : db.jobs.find job = some row)
    (becomes : after.jobs.find job = some next)
    (changes : ChangesOnly (· = job) db after)
    (accounts : next.Accounts (after.attemptsOf job))
    (dedupeKey : next.dedupeKey = row.dedupeKey)
    (serializationKey : next.serializationKey = row.serializationKey)
    (leases : next.state = .leased → row.state = .leased ∨
      row.leasedElsewhere db.jobs = false) :
    after.Accounted := by
  have keys {other : Uuid} {now : JobRow}
      (isNow : after.jobs.find other = some now) :
      ∃ before, db.jobs.find other = some before ∧
        now.dedupeKey = before.dedupeKey := by
    by_cases same : other = job
    · subst same
      rw [becomes] at isNow
      cases isNow
      exact ⟨row, found, dedupeKey⟩
    · rw [changes.jobs other same] at isNow
      exact ⟨now, isNow, rfl⟩
  have leased {other : Uuid} {key : String} (isLeased : after.Leased other key) :
      db.Leased other key ∨ other = job ∧ row.serializationKey = some key ∧
        row.leasedElsewhere db.jobs = false := by
    obtain ⟨now, isNow, state, isKey⟩ := isLeased
    by_cases same : other = job
    · subst same
      rw [becomes] at isNow
      cases isNow
      rw [serializationKey] at isKey
      rcases leases state with wasLeased | unshared
      · exact Or.inl ⟨row, found, wasLeased, isKey⟩
      · exact Or.inr ⟨rfl, isKey, unshared⟩
    · rw [changes.jobs other same] at isNow
      exact Or.inl ⟨now, isNow, state, isKey⟩
  have alone {other : Uuid} {key : String}
      (isKey : row.serializationKey = some key)
      (unshared : row.leasedElsewhere db.jobs = false)
      (isLeased : db.Leased other key) : other = job := by
    refine not_not.mp fun different => ?_
    have elsewhere : row.leasedElsewhere db.jobs = true :=
      JobRow.leasedElsewhere_iff.mpr ⟨key, isKey, other,
        by rwa [Table.key_of_find found], isLeased⟩
    rw [unshared] at elsewhere
    contradiction
  refine ⟨?_, ?_, ?_, ?_⟩
  · intro other now isNow
    by_cases same : other = job
    · subst same
      rw [becomes] at isNow
      cases isNow
      exact accounts
    · rw [changes.jobs other same] at isNow
      rw [changes.attempts other same]
      exact accounted.accounts other now isNow
  · intro attempt member
    by_cases same : attempt.jobId = job
    · rw [same, becomes]
      rfl
    · have listed : attempt ∈ after.attemptsOf attempt.jobId :=
        WorkDb.mem_attemptsOf.mpr ⟨member, rfl⟩
      rw [changes.attempts _ same] at listed
      rw [changes.jobs _ same]
      exact accounted.owned attempt (WorkDb.mem_attemptsOf.mp listed).1
  · intro first second now other isNow isOther same
    obtain ⟨before, wasBefore, keyEq⟩ := keys isNow
    obtain ⟨otherBefore, wasOther, otherKeyEq⟩ := keys isOther
    refine accounted.dedupeKeys first second before otherBefore wasBefore
      wasOther ?_
    rw [← keyEq, ← otherKeyEq, same]
  · intro first second key isLeased isOther
    rcases leased isLeased with wasLeased | ⟨rfl, isKey, unshared⟩
    · rcases leased isOther with wasOther | ⟨rfl, isKey, unshared⟩
      · exact accounted.serializationKeys first second key wasLeased wasOther
      · exact alone isKey unshared wasLeased
    · rcases leased isOther with wasOther | ⟨rfl, _⟩
      · exact (alone isKey unshared wasOther).symm
      · rfl

section Statements

variable {now : Timestamp} {guard : JobRow → Bool}
variable {set : Table.Setter JobRow.id}

theorem updateJob_changesOnly :
    ChangesOnly (· = job) db (updateJob job guard set db) :=
  ⟨fun _ different => updateJob_find_other different, fun _ _ => rfl⟩

/-- An update of one job that leaves its attempts alone. -/
theorem updated (accounted : db.Accounted)
    (found : db.jobs.find job = some row) (selected : guard row = true)
    (accounts : row.Accounts (db.attemptsOf job) →
      (set.apply row).Accounts (db.attemptsOf job))
    (dedupeKey : (set.apply row).dedupeKey = row.dedupeKey)
    (serializationKey :
      (set.apply row).serializationKey = row.serializationKey)
    (leases : (set.apply row).state = .leased → row.state = .leased) :
    (updateJob job guard set db).Accounted :=
  accounted.replaced found (updateJob_find_self found selected)
    updateJob_changesOnly (accounts (accounted.accounts job row found))
    dedupeKey serializationKey fun leased => Or.inl (leases leased)

/-- What closing the open attempts of a job leaves of them. -/
theorem closed_attemptsOf (checks : db.Checks) (now : Timestamp) (job : Uuid)
    (outcome : AttemptOutcome) (errorClass : Option String) :
    let closed := closeOpenAttempt now job outcome errorClass db
    (closed.attemptsOf job).map AttemptRow.attemptNumber =
        (db.attemptsOf job).map AttemptRow.attemptNumber ∧
      (∀ attempt ∈ closed.attemptsOf job,
        (attempt.endedAt = none ↔ attempt.outcome = none)) ∧
      ∀ attempt ∈ closed.attemptsOf job, attempt.outcome.isSome := by
  refine ⟨?_, ?_, ?_⟩
  · rw [closeOpenAttempt_attemptsOf, List.map_map]
    apply List.map_congr_left
    intro attempt _
    simp only [Function.comp_apply]
    split <;> rfl
  · intro attempt member
    exact (closeOpenAttempt_checks checks).attempts attempt
      (WorkDb.mem_attemptsOf.mp member).1
  · intro attempt member
    rw [closeOpenAttempt_attemptsOf] at member
    obtain ⟨old, wasMember, rfl⟩ := List.mem_map.mp member
    obtain ⟨inTable, sameJob⟩ := WorkDb.mem_attemptsOf.mp wasMember
    split
    · rfl
    · rename_i unselected
      have ended : old.endedAt ≠ none := by
        intro running
        simp [sameJob, running] at unselected
      rw [Option.isSome_iff_ne_none]
      exact fun running =>
        ended ((checks.attempts old inTable).mpr running)

/-- An update of one job that ends its lease, in either order of the two
statements. -/
theorem settles (accounted : db.Accounted)
    (found : db.jobs.find job = some row) (selected : guard row = true)
    (outcome : AttemptOutcome) (errorClass : Option String)
    (checks : (set.apply row).Checks)
    (version : (set.apply row).payloadVersion = row.payloadVersion)
    (count : (set.apply row).attemptCount = row.attemptCount)
    (limit : (set.apply row).maxAttempts = row.maxAttempts)
    (remaining : (set.apply row).state = .queued →
      row.attemptCount < row.maxAttempts)
    (unleased : (set.apply row).state ≠ .leased)
    (dedupeKey : (set.apply row).dedupeKey = row.dedupeKey)
    (serializationKey :
      (set.apply row).serializationKey = row.serializationKey) :
    (updateJob job guard set
      (closeOpenAttempt now job outcome errorClass db)).Accounted := by
  obtain ⟨numbers, ended, outcomes⟩ :=
    closed_attemptsOf accounted.checks now job outcome errorClass
  refine accounted.replaced found (updateJob_find_self found selected)
    ⟨fun _ different => updateJob_find_other different,
      fun _ different => closeOpenAttempt_attemptsOf_other different⟩
    ((accounted.accounts job row found).settled checks version count limit
      remaining unleased numbers ended outcomes)
    dedupeKey serializationKey fun leased => absurd leased unleased

end Statements

section Operations

variable {now : Timestamp} {token : Uuid}

theorem payloadVersion_pos {payload : Payload} {version : Int}
    (ok : payloadVersion payload = .ok version) : 0 < version := by
  unfold payloadVersion at ok
  split at ok
  · split at ok
    · rename_i bounds
      cases ok
      exact bounds.1
    · contradiction
  · contradiction

theorem validateEnqueueRequest_ok {request : EnqueueRequest} {version : Int}
    (ok : validateEnqueueRequest request = .ok version) :
    0 < version ∧ 0 < request.maxAttempts := by
  unfold validateEnqueueRequest at ok
  split at ok
  · contradiction
  · rename_i valid isVersion
    split at ok
    · contradiction
    · rename_i positive
      split at ok
      · contradiction
      · split at ok
        · contradiction
        · split at ok
          · contradiction
          · cases ok
            exact ⟨payloadVersion_pos isVersion, by omega⟩

/-- A new job has no attempts. -/
theorem queuedRow_accounts {request : EnqueueRequest} {version : Int}
    (valid : validateEnqueueRequest request = .ok version) :
    (queuedRow now version request).Accounts [] where
  checks := queuedRow_checks version request
  version := (validateEnqueueRequest_ok valid).1
  limit := (validateEnqueueRequest_ok valid).2
  counted := rfl
  bounded := (validateEnqueueRequest_ok valid).2.le
  remaining _ := (validateEnqueueRequest_ok valid).2
  numbered := rfl
  ended := by simp
  released := by simp
  held leased := by contradiction

theorem attemptsOf_eq_nil (accounted : db.Accounted)
    (absent : db.jobs.find job = none) : db.attemptsOf job = [] := by
  rw [List.eq_nil_iff_forall_not_mem]
  intro attempt member
  obtain ⟨inTable, rfl⟩ := WorkDb.mem_attemptsOf.mp member
  have present := accounted.owned attempt inTable
  rw [absent] at present
  contradiction

theorem enqueued (accounted : db.Accounted) {request : EnqueueRequest}
    {outcome : EnqueueOutcome}
    (ok : enqueueInTransaction now request db = .ok (outcome, after)) :
    after.Accounted := by
  rcases enqueueInTransaction_ok ok with
    ⟨_, rfl, _⟩ | ⟨_, free, version, jobs, valid, insertion, rfl⟩
  · exact accounted
  · have absent : db.jobs.find request.id = none :=
      (Table.insert_eq_some_iff.mp insertion).1
    have finds := Table.find_insert insertion
    have origin {other : Uuid} {now' : JobRow}
        (isNow : jobs.find other = some now') :
        (other = request.id ∧ now' = queuedRow now version request) ∨
          db.jobs.find other = some now' := by
      rw [finds] at isNow
      split at isNow
      · rename_i same
        exact Or.inl ⟨same.symm, (Option.some.inj isNow).symm⟩
      · exact Or.inr isNow
    have leased {other : Uuid} {key : String}
        (isLeased : WorkDb.Leased { db with jobs := jobs } other key) :
        db.Leased other key := by
      obtain ⟨row, found, state, isKey⟩ := isLeased
      rcases origin found with ⟨_, rfl⟩ | old
      · contradiction
      · exact ⟨row, old, state, isKey⟩
    refine ⟨?_, ?_, ?_, ?_⟩
    · intro other row found
      rcases origin found with ⟨rfl, rfl⟩ | old
      · have noAttempts : WorkDb.attemptsOf { db with jobs := jobs }
            request.id = [] := accounted.attemptsOf_eq_nil absent
        rw [noAttempts]
        exact queuedRow_accounts valid
      · exact accounted.accounts other row old
    · intro attempt member
      change (jobs.find attempt.jobId).isSome
      rw [finds]
      split
      · rfl
      · exact accounted.owned attempt member
    · intro first second row other found foundOther same
      rcases origin found with ⟨rfl, rfl⟩ | old
      · rcases origin foundOther with ⟨rfl, _⟩ | oldOther
        · rfl
        · exact absurd same.symm (free other (Table.mem_of_find oldOther))
      · rcases origin foundOther with ⟨rfl, rfl⟩ | oldOther
        · exact absurd same (free row (Table.mem_of_find old))
        · exact accounted.dedupeKeys first second row other old oldOther same
    · intro first second key isLeased isOther
      exact accounted.serializationKeys first second key (leased isLeased)
        (leased isOther)

theorem renewed (accounted : db.Accounted) {leaseDurationSecs : Int}
    {leaseDeadline : Timestamp}
    (ok : heartbeat now job token leaseDurationSecs db =
      .ok (leaseDeadline, after)) : after.Accounted := by
  obtain ⟨row, found, holds, rfl⟩ := heartbeat_ok ok
  have leased := JobRow.state_of_holdsLease holds
  refine accounted.updated found holds ?_ rfl rfl fun _ => leased
  intro accounts
  refine accounts.rewritten (accounts.checks.markRenewed leased _ _) rfl rfl
    le_rfl accounts.remaining (Or.inl ⟨leased, leased, rfl⟩)

theorem completed (accounted : db.Accounted)
    (ok : complete now job token db = .ok ((), after)) :
    after.Accounted := by
  obtain ⟨row, found, holds, rfl⟩ := complete_ok ok
  exact accounted.settles found holds .completed none
    (JobRow.markCompleted_checks now) rfl rfl rfl (by simp [JobRow.markCompleted])
    (by simp [JobRow.markCompleted]) rfl rfl

theorem cancelled (accounted : db.Accounted) {leaseToken : Option Uuid}
    {operatorOverride : Bool}
    (ok : cancelActive now job leaseToken operatorOverride db =
      .ok ((), after)) : after.Accounted := by
  obtain ⟨row, found, ⟨queued, rfl⟩ | ⟨guard, _, selected, rfl⟩⟩ :=
    cancelActive_ok ok
  · refine accounted.updated found (by simp [queued]) ?_ rfl rfl
      (by simp [JobRow.markCancelledQueued])
    intro accounts
    exact accounts.rewritten (accounts.checks.markCancelledQueued queued now)
      rfl rfl le_rfl (by simp [JobRow.markCancelledQueued])
      (Or.inr (by simp [JobRow.markCancelledQueued, queued]))
  · exact accounted.settles found selected .cancelled none
      (JobRow.markCancelledLeased_checks now) rfl rfl rfl
      (by simp [JobRow.markCancelledLeased])
      (by simp [JobRow.markCancelledLeased]) rfl rfl

theorem recovered (accounted : db.Accounted)
    (ok : recoverDead now job db = .ok ((), after)) : after.Accounted := by
  obtain ⟨row, found, dead, rfl⟩ := recoverDead_ok ok
  refine accounted.updated found (by simp [dead]) ?_ rfl rfl
    (by simp [JobRow.markRecovered])
  intro accounts
  refine accounts.rewritten (JobRow.markRecovered_checks now) rfl rfl
    (le_max_left _ _) ?_ (Or.inr (by simp [JobRow.markRecovered, dead]))
  intro _
  exact (Int.lt_succ _).trans_le (le_max_right _ _)

theorem failed (accounted : db.Accounted) {errorClass : ErrorClass}
    {outcome : FailOutcome}
    (ok : fail now job token errorClass db = .ok (outcome, after)) :
    after.Accounted := by
  obtain ⟨row, set, found, holds, branch, rfl⟩ := fail_ok ok
  have leased := JobRow.state_of_holdsLease holds
  have checks := (accounted.accounts job row found).checks
  rcases branch with ⟨_, remaining, rfl⟩ | ⟨_, rfl⟩
  · exact accounted.settles found (stillLeased_of_holdsLease holds) .failed _
      (checks.markRetried leased _ _ _) rfl rfl rfl (fun _ => remaining)
      (by simp [JobRow.markRetried]) rfl rfl
  · exact accounted.settles found (stillLeased_of_holdsLease holds) .failed _
      (JobRow.markDead_checks _ _) rfl rfl rfl (by simp [JobRow.markDead])
      (by simp [JobRow.markDead]) rfl rfl

/-- An update that cancels queued jobs. -/
theorem cancelledAll (accounted : db.Accounted) {selects : JobRow → Bool}
    (queued : ∀ row, selects row = true → row.state = .queued)
    (now : Timestamp) :
    WorkDb.Accounted ⟨db.jobs.update selects (JobRow.markCancelledQueued now),
      db.attempts⟩ := by
  have origin {other : Uuid} {row : JobRow}
      (found : (db.jobs.update selects (JobRow.markCancelledQueued now)).find
        other = some row) :
      ∃ before, db.jobs.find other = some before ∧
        row.dedupeKey = before.dedupeKey ∧
        (row = before ∨ before.state = .queued ∧
          row = (JobRow.markCancelledQueued now).apply before) := by
    rw [Table.find_update, Option.map_eq_some_iff] at found
    obtain ⟨before, wasFound, rfl⟩ := found
    refine ⟨before, wasFound, ?_⟩
    split
    · rename_i selected
      exact ⟨rfl, Or.inr ⟨queued before selected, rfl⟩⟩
    · exact ⟨rfl, Or.inl rfl⟩
  have leased {other : Uuid} {key : String}
      (isLeased : WorkDb.Leased ⟨db.jobs.update selects
        (JobRow.markCancelledQueued now), db.attempts⟩ other key) :
      db.Leased other key := by
    obtain ⟨row, found, state, isKey⟩ := isLeased
    obtain ⟨before, wasFound, _, rfl | ⟨_, rfl⟩⟩ := origin found
    · exact ⟨row, wasFound, state, isKey⟩
    · contradiction
  refine ⟨?_, ?_, ?_, ?_⟩
  · intro other row found
    obtain ⟨before, wasFound, _, rfl | ⟨isQueued, rfl⟩⟩ := origin found
    · exact accounted.accounts other row wasFound
    · have accounts := accounted.accounts other before wasFound
      exact accounts.rewritten
        (accounts.checks.markCancelledQueued isQueued now) rfl rfl le_rfl
        (by simp [JobRow.markCancelledQueued])
        (Or.inr (by simp [JobRow.markCancelledQueued, isQueued]))
  · intro attempt member
    rw [Table.find_update, Option.isSome_map]
    exact accounted.owned attempt member
  · intro first second row other found foundOther same
    obtain ⟨before, wasFound, keyEq, _⟩ := origin found
    obtain ⟨otherBefore, wasOther, otherKeyEq, _⟩ := origin foundOther
    refine accounted.dedupeKeys first second before otherBefore wasFound
      wasOther ?_
    rw [← keyEq, ← otherKeyEq, same]
  · intro first second key isLeased isOther
    exact accounted.serializationKeys first second key (leased isLeased)
      (leased isOther)

theorem cancelledQueued (accounted : db.Accounted)
    {serializationKey : String} {seen : Uuid → Bool} {count : Nat}
    (ok : cancelQueuedBySerializationKey now serializationKey seen db =
      .ok (count, after)) : after.Accounted := by
  simp only [cancelQueuedBySerializationKey, Except.ok.injEq,
    Prod.mk.injEq] at ok
  obtain ⟨_, rfl⟩ := ok
  refine accounted.cancelledAll (fun row selected => ?_) now
  simp only [queuedUnder, Bool.and_eq_true, decide_eq_true_eq] at selected
  exact selected.1.2

end Operations

end WorkDb.Accounted

end ZaloBot
