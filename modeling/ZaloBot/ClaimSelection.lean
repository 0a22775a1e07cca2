import ZaloBot.AttemptRuns

/-!
# What a claim selects

Without another transaction a claim handles, of its candidates in their order,
the first one of each serialization key and every one without a key: expired
leases at their limit are buried, the others are leased and returned in that
order.  Every other job stays as it was.
-/

namespace ZaloBot

/-- What a claim may ask for. -/
structure ClaimOptions.IsValid (options : ClaimOptions) : Prop where
  batch : 0 < options.batchLimit
  owner : options.leaseOwner.isEmpty = false
  duration : 0 < options.leaseDurationSecs

namespace WorkStore

open LabelledRuns WorkCall

/-- No other transaction holds a row or an advisory lock. -/
structure ClaimEnvironment.IsQuiet (environment : ClaimEnvironment) :
    Prop where
  rows : ∀ job, environment.rowLocked job = false
  advisory : ∀ serializationKey,
    environment.advisoryTaken serializationKey = false

/-- A queued job that is due and whose key no job is leased under, or a lease
that has expired. -/
def Eligible (now : Timestamp) (db : WorkDb) (job : JobRow) : Prop :=
  (job.state = .queued ∧ job.runAt ≤ now ∧
    ∀ key, job.serializationKey = some key → ∀ active ∈ db.jobs,
      active.state = .leased → active.serializationKey ≠ some key) ∨
  (job.state = .leased ∧ ∃ deadline, job.leaseDeadline = some deadline ∧
    deadline < now)

/-- The order of claims: higher priorities first, then earlier run times, then
older jobs. -/
def Precedes (first second : JobRow) : Prop :=
  second.priority < first.priority ∨
    (second.priority = first.priority ∧
      (first.runAt < second.runAt ∨
        (first.runAt = second.runAt ∧ first.createdAt ≤ second.createdAt)))

/-- A batch holds the first eligible jobs in the order of claims, as many as
the limit permits. -/
structure IsBatch (now : Timestamp) (limit : Int) (db : WorkDb)
    (batch : List JobRow) : Prop where
  eligible : ∀ job ∈ batch, job ∈ db.jobs ∧ Eligible now db job
  distinct : (batch.map JobRow.id).Nodup
  inOrder : batch.Pairwise Precedes
  bounded : (batch.length : Int) ≤ limit
  first : ∀ job ∈ db.jobs, Eligible now db job → job ∉ batch →
    (batch.length : Int) = limit ∧ ∀ earlier ∈ batch, Precedes earlier job

/-- The jobs without a key, and the first job of each key that is not among
the given ones. -/
def firstOfKeys : List String → List JobRow → List JobRow
  | _, [] => []
  | keys, job :: rest =>
      if job.serializationKey.all (· ∉ keys) then
        job :: firstOfKeys (job.serializationKey.toList ++ keys) rest
      else
        firstOfKeys keys rest

/-- An expired lease whose attempts are used up. -/
def AtLimit (job : JobRow) : Prop :=
  job.state = .leased ∧ job.maxAttempts ≤ job.attemptCount

instance decidableAtLimit (job : JobRow) : Decidable (AtLimit job) :=
  inferInstanceAs (Decidable (_ ∧ _))

section Columns

variable (now : Timestamp) (options : ClaimOptions)
  (environment : ClaimEnvironment) (job : JobRow)

/-- The columns that no claim changes. -/
structure KeepsJob (row : JobRow) : Prop where
  id : row.id = job.id
  jobType : row.jobType = job.jobType
  payload : row.payload = job.payload
  payloadVersion : row.payloadVersion = job.payloadVersion
  priority : row.priority = job.priority
  runAt : row.runAt = job.runAt
  dedupeKey : row.dedupeKey = job.dedupeKey
  serializationKey : row.serializationKey = job.serializationKey
  maxAttempts : row.maxAttempts = job.maxAttempts
  createdAt : row.createdAt = job.createdAt

/-- The row of a job after a claim has leased it. -/
structure LeasesJob (row : JobRow) : Prop extends KeepsJob job row where
  state : row.state = .leased
  attemptCount : row.attemptCount = job.attemptCount + 1
  leaseToken : row.leaseToken = some (environment.leaseTokenFor job.id)
  leaseOwner : row.leaseOwner = some options.leaseOwner
  leaseDeadline : row.leaseDeadline =
    some (now + options.leaseDurationSecs * 1000000)
  lastErrorClass : row.lastErrorClass = job.lastErrorClass
  updatedAt : row.updatedAt = now
  completedAt : row.completedAt = job.completedAt

/-- The row of a job after a claim has buried it. -/
structure BuriesJob (row : JobRow) : Prop extends KeepsJob job row where
  state : row.state = .dead
  attemptCount : row.attemptCount = job.attemptCount
  leaseToken : row.leaseToken = none
  leaseOwner : row.leaseOwner = none
  leaseDeadline : row.leaseDeadline = none
  lastErrorClass : row.lastErrorClass = some "timeout"
  updatedAt : row.updatedAt = now
  completedAt : row.completedAt = some now

/-- An attempt that was open is lost with its lease. -/
structure LosesAttempt (attempt next : AttemptRow) : Prop where
  id : next.id = attempt.id
  jobId : next.jobId = attempt.jobId
  attemptNumber : next.attemptNumber = attempt.attemptNumber
  leaseToken : next.leaseToken = attempt.leaseToken
  leaseOwner : next.leaseOwner = attempt.leaseOwner
  startedAt : next.startedAt = attempt.startedAt
  endedAt : next.endedAt = some now
  outcome : next.outcome = some .lostLease
  errorClass : next.errorClass = attempt.errorClass

/-- The attempt that begins with a lease. -/
structure OpensAttempt (attempt : AttemptRow) : Prop where
  id : attempt.id = environment.attemptIdFor job.id
  jobId : attempt.jobId = job.id
  attemptNumber : attempt.attemptNumber = job.attemptCount + 1
  leaseToken : attempt.leaseToken = environment.leaseTokenFor job.id
  leaseOwner : attempt.leaseOwner = options.leaseOwner
  startedAt : attempt.startedAt = now
  endedAt : attempt.endedAt = none
  outcome : attempt.outcome = none
  errorClass : attempt.errorClass = none

/-- What the worker gets to know of a job it has leased. -/
structure HandsOver (claimed : ClaimedJob) : Prop where
  id : claimed.id = job.id
  jobType : claimed.jobType = job.jobType
  payload : claimed.payload = job.payload
  payloadVersion : claimed.payloadVersion = job.payloadVersion
  attemptNumber : claimed.attemptNumber = job.attemptCount + 1
  leaseToken : claimed.leaseToken = environment.leaseTokenFor job.id
  leaseOwner : claimed.leaseOwner = options.leaseOwner
  leaseDeadline : claimed.leaseDeadline =
    now + options.leaseDurationSecs * 1000000
  dedupeKey : claimed.dedupeKey = job.dedupeKey
  serializationKey : claimed.serializationKey = job.serializationKey

/-- What becomes of an attempt of a job that a claim handles: it is lost if it
was open and the lease has expired. -/
def EndsAttempt (attempt next : AttemptRow) : Prop :=
  (job.state = .leased ∧ attempt.endedAt = none ∧
    LosesAttempt now attempt next) ∨
  ((job.state ≠ .leased ∨ attempt.endedAt ≠ none) ∧ next = attempt)

/-- What becomes of a job that a claim handles: an expired lease at its limit
is buried, and any other job is leased and gets a new attempt. -/
structure Handles (before after : WorkDb) : Prop where
  buried : AtLimit job → ∃ row, after.jobs.find job.id = some row ∧
    BuriesJob now job row
  leased : ¬ AtLimit job → ∃ row, after.jobs.find job.id = some row ∧
    LeasesJob now options environment job row
  attempts : ∃ ended,
    List.Forall₂ (EndsAttempt now job) (before.attemptsOf job.id) ended ∧
    (AtLimit job → after.attemptsOf job.id = ended) ∧
    (¬ AtLimit job → ∃ attempt,
      OpensAttempt now options environment job attempt ∧
      after.attemptsOf job.id = ended ++ [attempt])

end Columns

section Handling

variable {now : Timestamp} {options : ClaimOptions}
  {environment : ClaimEnvironment} {db after : WorkDb} {job : JobRow}

theorem isExhausted_iff : job.isExhausted = true ↔ AtLimit job := by
  simp [JobRow.isExhausted, AtLimit]

theorem isClaimable_of_eligible (eligible : Eligible now db job) :
    job.isClaimable now = true := by
  rcases eligible with ⟨queued, due, _⟩ | ⟨leased, deadline, set, expired⟩
  · simp [JobRow.isClaimable, JobRow.isDue, queued, due]
  · simp [JobRow.isClaimable, JobRow.isExpired, leased, set, expired]

/-- The condition of the selection says what is eligible. -/
theorem isCandidate_iff :
    isCandidate now db.jobs job = true ↔ Eligible now db job := by
  constructor
  · intro candidate
    rw [isCandidate, Bool.and_eq_true, Bool.or_eq_true, Bool.or_eq_true]
      at candidate
    obtain ⟨claimable, unlocked⟩ := candidate
    rw [JobRow.isClaimable, Bool.or_eq_true] at claimable
    rcases claimable with isDue | isExpired
    · simp only [JobRow.isDue, Bool.and_eq_true, decide_eq_true_eq] at isDue
      refine Or.inl ⟨isDue.1, isDue.2, ?_⟩
      intro key isKey active member leased sameKey
      rcases unlocked with (noKey | isLeased) | noRival
      · simp [isKey] at noKey
      · simp [isDue.1] at isLeased
      · rw [Bool.not_eq_true', List.any_eq_false] at noRival
        exact noRival active member (by simp [leased, sameKey, isKey])
    · simp only [JobRow.isExpired, Bool.and_eq_true, decide_eq_true_eq,
        Option.any_eq_true] at isExpired
      exact Or.inr ⟨isExpired.1, isExpired.2⟩
  · intro eligible
    rw [isCandidate, isClaimable_of_eligible eligible, Bool.true_and]
    rcases eligible with ⟨queued, _, unlocked⟩ | ⟨leased, _⟩
    · cases isKey : job.serializationKey with
      | none => rfl
      | some key =>
          have free : (db.jobs.rows.any fun active =>
              decide (active.serializationKey = some key) &&
                decide (active.state = .leased)) = false := by
            rw [List.any_eq_false]
            intro active member rival
            rw [Bool.and_eq_true, decide_eq_true_eq, decide_eq_true_eq]
              at rival
            exact unlocked key isKey active member rival.2 rival.1
          rw [free, Bool.not_false, Bool.or_true]
    · simp [leased]

theorem markLeased_leases :
    LeasesJob now options environment job
      ((JobRow.markLeased now (job.attemptCount + 1)
        (environment.leaseTokenFor job.id) options).apply job) :=
  ⟨⟨rfl, rfl, rfl, rfl, rfl, rfl, rfl, rfl, rfl, rfl⟩,
    rfl, rfl, rfl, rfl, rfl, rfl, rfl, rfl⟩

theorem markDead_buries :
    BuriesJob now job ((JobRow.markDead now "timeout").apply job) :=
  ⟨⟨rfl, rfl, rfl, rfl, rfl, rfl, rfl, rfl, rfl, rfl⟩,
    rfl, rfl, rfl, rfl, rfl, rfl, rfl, rfl⟩

theorem attemptRow_opens :
    OpensAttempt now options environment job
      (attemptRow now options environment job) :=
  ⟨rfl, rfl, rfl, rfl, rfl, rfl, rfl, rfl, rfl⟩

theorem claimedJob_handsOver :
    HandsOver now options environment job
      (claimedJob now options environment job) :=
  ⟨rfl, rfl, rfl, rfl, rfl, rfl, rfl, rfl, rfl, rfl⟩

theorem preparedFor_attemptsOf_self :
    (preparedFor now job db).attemptsOf job.id =
      if job.state = .leased then
        (db.attemptsOf job.id).map fun attempt =>
          if attempt.endedAt.isNone then
            (AttemptRow.markEnded now .lostLease none).apply attempt
          else
            attempt
      else db.attemptsOf job.id := by
  unfold preparedFor
  split
  · rw [closeOpenAttempt_attemptsOf]
    refine List.map_congr_left fun attempt member => ?_
    simp [(WorkDb.mem_attemptsOf.mp member).2]
  · rfl

theorem endsAttempt_markEnded (attempts : List AttemptRow)
    (leased : job.state = .leased) :
    List.Forall₂ (EndsAttempt now job) attempts
      (attempts.map fun attempt =>
        if attempt.endedAt.isNone then
          (AttemptRow.markEnded now .lostLease none).apply attempt
        else
          attempt) := by
  rw [List.forall₂_map_right_iff, List.forall₂_same]
  intro attempt _
  cases isEnded : attempt.endedAt with
  | none =>
      rw [if_pos (by simp)]
      exact Or.inl ⟨leased, isEnded,
        rfl, rfl, rfl, rfl, rfl, rfl, rfl, rfl, rfl⟩
  | some ended =>
      rw [if_neg (by simp)]
      exact Or.inr ⟨Or.inr (by simp [isEnded]), rfl⟩

/-- The attempts of a candidate, after the first statement of its turn. -/
theorem preparedFor_endsAttempts :
    List.Forall₂ (EndsAttempt now job) (db.attemptsOf job.id)
      ((preparedFor now job db).attemptsOf job.id) := by
  rw [preparedFor_attemptsOf_self]
  split
  · rename_i leased
    exact endsAttempt_markEnded _ leased
  · rename_i notLeased
    exact List.forall₂_same.mpr fun attempt _ =>
      Or.inr ⟨Or.inl notLeased, rfl⟩

/-- The loop handles a candidate whose row is as it was selected. -/
theorem takeCandidate_handles {claimed : Option ClaimedJob}
    (found : db.jobs.find job.id = some job)
    (active : job.isClaimable now = true)
    (ok : takeCandidate now options environment job db =
      .ok (claimed, after)) :
    Handles now options environment job db after ∧
      claimed = if job.isExhausted then none
        else some (claimedJob now options environment job) := by
  rcases takeCandidate_ok found active ok with
    ⟨none, expired, exhausted, becomes⟩ |
    ⟨claims, notExhausted, _, inserted⟩
  · have leased : job.state = .leased := JobRow.state_of_isExpired expired
    have atLimit : AtLimit job := isExhausted_iff.mp exhausted
    subst becomes
    refine ⟨⟨fun _ => ⟨_, updateJob_find_self found expired,
      markDead_buries⟩, fun spared => absurd atLimit spared, _,
      preparedFor_endsAttempts, fun _ => ?_,
      fun spared => absurd atLimit spared⟩, ?_⟩
    · rw [updateJob_attemptsOf, preparedFor, if_pos leased]
    · rw [none, if_pos exhausted]
  · have spared : ¬ AtLimit job := by
      rw [← isExhausted_iff, notExhausted]
      exact Bool.false_ne_true
    refine ⟨⟨fun atLimit => absurd atLimit spared, fun _ =>
      ⟨_, leased_find found active inserted, markLeased_leases⟩, _,
      preparedFor_endsAttempts, fun atLimit => absurd atLimit spared,
      fun _ => ⟨_, attemptRow_opens, ?_⟩⟩, ?_⟩
    · rw [insertAttempt_attemptsOf inserted, leaseUpdate,
        updateJob_attemptsOf]
      simp [attemptRow]
    · rw [claims, if_neg (by simp [notExhausted])]

theorem Handles.serializationKey
    (handles : Handles now options environment job db after) :
    ∃ row, after.jobs.find job.id = some row ∧
      row.serializationKey = job.serializationKey := by
  by_cases atLimit : AtLimit job
  · obtain ⟨row, found, buried⟩ := handles.buried atLimit
    exact ⟨row, found, buried.serializationKey⟩
  · obtain ⟨row, found, leased⟩ := handles.leased atLimit
    exact ⟨row, found, leased.serializationKey⟩

/-- What is handled first is not touched by what is handled later. -/
theorem Handles.of_unchanged {middle : WorkDb}
    (handles : Handles now options environment job db middle)
    (row : after.jobs.find job.id = middle.jobs.find job.id)
    (attempts : after.attemptsOf job.id = middle.attemptsOf job.id) :
    Handles now options environment job db after := by
  refine ⟨?_, ?_, ?_⟩
  · rw [row]
    exact handles.buried
  · rw [row]
    exact handles.leased
  · rw [attempts]
    exact handles.attempts

theorem Handles.after_unchanged {before : WorkDb}
    (handles : Handles now options environment job db after)
    (attempts : db.attemptsOf job.id = before.attemptsOf job.id) :
    Handles now options environment job before after :=
  ⟨handles.buried, handles.leased, attempts ▸ handles.attempts⟩

end Handling

/-- Jobs whose key is not among the given ones have no rival lease. -/
def AreFree (keys : List String) (jobs : List JobRow) (db : WorkDb) : Prop :=
  ∀ job ∈ jobs, (∀ key ∈ job.serializationKey, key ∉ keys) →
    job.leasedElsewhere db.jobs = false

section Loops

variable {now : Timestamp} {options : ClaimOptions}
  {environment : ClaimEnvironment} {db after : WorkDb} {job : JobRow}
  {rest : List JobRow} {keys : List String}

theorem mem_keysAfter {key : String} :
    key ∈ keysAfter keys job ↔ job.serializationKey = some key ∨ key ∈ keys := by
  unfold keysAfter
  cases isKey : job.serializationKey with
  | none => simp
  | some serializationKey =>
      dsimp only
      split
      · rename_i known
        simp only [Option.some.injEq]
        exact ⟨Or.inr, fun either => either.elim (· ▸ known) id⟩
      · simp [eq_comm]

theorem firstOfKeys_congr {others : List String} {jobs : List JobRow}
    (same : ∀ key, key ∈ keys ↔ key ∈ others) :
    firstOfKeys keys jobs = firstOfKeys others jobs := by
  induction jobs generalizing keys others with
  | nil => rfl
  | cons job rest ih =>
      have sameTest : job.serializationKey.all (· ∉ keys) =
          job.serializationKey.all (· ∉ others) := by
        simp only [same]
      have sameRest : firstOfKeys (job.serializationKey.toList ++ keys) rest =
          firstOfKeys (job.serializationKey.toList ++ others) rest :=
        ih fun key => by simp [same]
      rw [firstOfKeys, firstOfKeys, sameTest, sameRest, ih same]

/-- The keys that the loop remembers leave the same jobs. -/
theorem firstOfKeys_cons :
    firstOfKeys keys (job :: rest) =
      if job.serializationKey.all (· ∉ keys) then
        job :: firstOfKeys (keysAfter keys job) rest
      else
        firstOfKeys (keysAfter keys job) rest := by
  rw [firstOfKeys]
  split
  · have sameRest : firstOfKeys (job.serializationKey.toList ++ keys) rest =
        firstOfKeys (keysAfter keys job) rest :=
      firstOfKeys_congr fun key => by simp [mem_keysAfter]
    rw [sameRest]
  · rename_i known
    refine firstOfKeys_congr fun key => ?_
    rw [mem_keysAfter]
    constructor
    · exact Or.inr
    · rintro (isKey | before)
      · simpa [isKey] using known
      · exact before

/-- Without rivals only the keys of the batch decide. -/
theorem passesSerialization_of_quiet (quiet : environment.IsQuiet)
    (free : AreFree keys (job :: rest) db) :
    passesSerialization environment keys job db =
      job.serializationKey.all (· ∉ keys) := by
  unfold passesSerialization
  cases isKey : job.serializationKey with
  | none => rfl
  | some key =>
      simp only [Option.all_some, quiet.advisory, Bool.not_false,
        Bool.and_true]
      by_cases known : key ∈ keys
      · simp [known]
      · have unshared := free job (by simp) (by simpa [isKey] using known)
        simp [known, unshared]

theorem AreFree.skip (free : AreFree keys (job :: rest) db) :
    AreFree (keysAfter keys job) rest db := by
  intro other member unknown
  exact free other (by simp [member]) fun key isKey known =>
    unknown key isKey (mem_keysAfter.mpr (.inr known))

/-- A handled job takes a lease under its own key only. -/
theorem AreFree.handle (free : AreFree keys (job :: rest) db)
    (handles : Handles now options environment job db after)
    (changes : ChangesOnly (· = job.id) db after) :
    AreFree (keysAfter keys job) rest after := by
  intro other member unknown
  refine Bool.eq_false_iff.mpr fun shared => ?_
  obtain ⟨key, isKey, rival, different, row, found, leased, rowKey⟩ :=
    JobRow.leasedElsewhere_iff.mp shared
  by_cases isHandled : rival = job.id
  · obtain ⟨handled, foundHandled, sameKey⟩ := handles.serializationKey
    rw [isHandled, foundHandled, Option.some.injEq] at found
    subst found
    exact unknown key isKey
      (mem_keysAfter.mpr (.inl (sameKey.symm.trans rowKey)))
  · rw [changes.jobs rival isHandled] at found
    have unshared := free.skip other member unknown
    rw [JobRow.leasedElsewhere_iff.mpr
      ⟨key, isKey, rival, different, row, found, leased, rowKey⟩] at unshared
    cases unshared

theorem firstOfKeys_subset (jobs : List JobRow) :
    firstOfKeys keys jobs ⊆ jobs := by
  induction jobs generalizing keys with
  | nil => exact List.Subset.refl []
  | cons job rest ih =>
      rw [firstOfKeys_cons]
      split
      · exact List.cons_subset_cons job ih
      · exact List.subset_cons_of_subset job ih

/-- The loop handles the first candidates of their keys, returns the leased
ones in their order, and touches nothing else. -/
theorem claimLoop_selects {remaining : List JobRow}
    {claimed : List ClaimedJob} (quiet : environment.IsQuiet)
    (found : ClaimTx.Found now remaining db)
    (free : AreFree keys remaining db)
    (ok : claimLoop now options environment remaining keys db =
      .ok (claimed, after)) :
    claimed = ((firstOfKeys keys remaining).filter (!·.isExhausted)).map
        (claimedJob now options environment) ∧
      (∀ job ∈ firstOfKeys keys remaining,
        Handles now options environment job db after) ∧
      ChangesOnly (· ∈ (firstOfKeys keys remaining).map JobRow.id) db
        after := by
  induction remaining generalizing keys db claimed with
  | nil =>
      simp only [claimLoop, Except.ok.injEq, Prod.mk.injEq] at ok
      obtain ⟨rfl, rfl⟩ := ok
      exact ⟨rfl, by simp [firstOfKeys], fun _ _ => rfl, fun _ _ => rfl⟩
  | cons candidate rest ih =>
      rw [claimLoop, passesSerialization_of_quiet quiet free] at ok
      rw [firstOfKeys_cons]
      split at ok
      · rename_i isFirst
        rw [if_pos isFirst]
        obtain ⟨⟨taken, middle⟩, takes, ok⟩ := except_bind_eq_ok.mp ok
        obtain ⟨⟨others, final⟩, loops, ok⟩ := except_bind_eq_ok.mp ok
        simp only [Except.ok.injEq, Prod.mk.injEq] at ok
        obtain ⟨rfl, rfl⟩ := ok
        have isFound := found.found candidate (by simp)
        have active := found.active candidate (by simp)
        have changes := takeCandidate_changesOnly isFound active takes
        obtain ⟨handles, isTaken⟩ :=
          takeCandidate_handles isFound active takes
        obtain ⟨isOthers, handlesOthers, changesOthers⟩ :=
          ih (found.after_head changes.jobs) (free.handle handles changes)
            loops
        have headAbsent : candidate.id ∉
            (firstOfKeys (keysAfter keys candidate) rest).map JobRow.id := by
          intro inside
          exact (List.nodup_cons.mp found.nodup).1
            (List.map_subset _ (firstOfKeys_subset rest) inside)
        refine ⟨?_, ?_, ?_, ?_⟩
        · rw [isOthers, isTaken]
          cases exhausted : candidate.isExhausted <;> simp [exhausted]
        · intro job member
          rcases List.mem_cons.mp member with rfl | later
          · exact handles.of_unchanged (changesOthers.jobs _ headAbsent)
              (changesOthers.attempts _ headAbsent)
          · have different : job.id ≠ candidate.id := fun same =>
              headAbsent (same ▸ List.mem_map_of_mem later)
            exact (handlesOthers job later).after_unchanged
              (changes.attempts job.id different)
        · intro other outside
          simp only [List.map_cons, List.mem_cons, not_or] at outside
          rw [changesOthers.jobs other outside.2, changes.jobs other outside.1]
        · intro other outside
          simp only [List.map_cons, List.mem_cons, not_or] at outside
          rw [changesOthers.attempts other outside.2,
            changes.attempts other outside.1]
      · rename_i notFirst
        rw [if_neg notFirst]
        exact ih (found.after_head fun _ _ => rfl) free.skip ok

/-- A job that is not kept shares its key with an earlier one that is. -/
theorem mem_firstOfKeys {jobs : List JobRow} (member : job ∈ jobs) :
    job ∈ firstOfKeys keys jobs ∨
      ∃ key ∈ job.serializationKey, key ∈ keys ∨
        ∃ other ∈ firstOfKeys keys jobs, other.serializationKey = some key := by
  induction jobs generalizing keys with
  | nil => cases member
  | cons first rest ih =>
      rw [firstOfKeys_cons]
      rcases List.mem_cons.mp member with rfl | later
      · split
        · simp
        · rename_i notFirst
          cases isKey : job.serializationKey with
          | none => simp [isKey] at notFirst
          | some key =>
              exact .inr ⟨key, rfl, .inl (by simpa [isKey] using notFirst)⟩
      · rcases @ih (keysAfter keys first) later with
          kept | ⟨key, isKey, known | ⟨other, kept, otherKey⟩⟩
        · left
          split
          · exact List.mem_cons_of_mem _ kept
          · exact kept
        · right
          refine ⟨key, isKey, ?_⟩
          split
          · rcases mem_keysAfter.mp known with ofFirst | before
            · exact .inr ⟨first, by simp, ofFirst⟩
            · exact .inl before
          · rename_i notFirst
            rcases mem_keysAfter.mp known with ofFirst | before
            · left
              simpa [ofFirst] using notFirst
            · exact .inl before
        · refine .inr ⟨key, isKey, .inr ⟨other, ?_, otherKey⟩⟩
          split
          · exact List.mem_cons_of_mem _ kept
          · exact kept

end Loops

instance isTrans_claimOrder : IsTrans JobRow claimOrder where
  trans first second third before later := by
    simp only [claimOrder] at *
    grind

instance total_claimOrder : Std.Total claimOrder where
  total first second := by
    simp only [claimOrder]
    grind

section Selection

variable (now : Timestamp) (options : ClaimOptions)
  (environment : ClaimEnvironment) (db : WorkDb)

/-- What a claim with a batch does to the queue: of the batch it handles the
jobs without a key and the first one of each key, and returns those that it
leases. -/
structure Selects (batch : List JobRow) (claimed : List ClaimedJob)
    (after : WorkDb) : Prop where
  isBatch : IsBatch now options.batchLimit db batch
  returned : List.Forall₂ (HandsOver now options environment)
    ((firstOfKeys [] batch).filter (¬ AtLimit ·)) claimed
  handled : ∀ job ∈ firstOfKeys [] batch,
    Handles now options environment job db after
  unchanged : ChangesOnly (· ∈ (firstOfKeys [] batch).map JobRow.id) db after
  inOrder : ∀ later ∈ firstOfKeys [] batch, ∀ earlier ∈ db.jobs,
    Eligible now db earlier → ¬ Precedes later earlier →
      earlier ∈ firstOfKeys [] batch ∨
        ∃ key, earlier.serializationKey = some key ∧
          ∃ other ∈ firstOfKeys [] batch, other.serializationKey = some key

variable {now options environment db}

theorem candidates_of_quiet (quiet : environment.IsQuiet) :
    candidates now options environment db =
      ((db.jobs.rows.filter (isCandidate now db.jobs)).insertionSort
        claimOrder).take options.batchLimit.toNat := by
  rw [candidates]
  congr 1
  exact List.filter_eq_self.mpr fun job _ => by simp [quiet.rows]

/-- Without locks of others the candidates are a batch. -/
theorem candidates_isBatch (quiet : environment.IsQuiet)
    (positive : 0 < options.batchLimit)
    (found : ClaimTx.Found now (candidates now options environment db) db) :
    IsBatch now options.batchLimit db
      (candidates now options environment db) := by
  have distinct := found.nodup
  have sorted := List.pairwise_insertionSort claimOrder
    (db.jobs.rows.filter (isCandidate now db.jobs))
  have listed (job : JobRow) : job ∈ (db.jobs.rows.filter
      (isCandidate now db.jobs)).insertionSort claimOrder ↔
        job ∈ db.jobs ∧ Eligible now db job := by
    rw [List.mem_insertionSort, List.mem_filter, isCandidate_iff]
    rfl
  rw [candidates_of_quiet quiet] at distinct ⊢
  generalize (db.jobs.rows.filter (isCandidate now db.jobs)).insertionSort
    claimOrder = jobs at sorted listed distinct ⊢
  have limited : (jobs.take options.batchLimit.toNat).length ≤
      options.batchLimit.toNat := List.length_take_le _ _
  refine ⟨?_, distinct, ?_, ?_, ?_⟩
  · intro job member
    exact (listed job).mp (List.mem_of_mem_take member)
  · exact sorted.sublist (List.take_sublist _ _)
  · omega
  · intro job inTable eligible outside
    have isListed := (listed job).mpr ⟨inTable, eligible⟩
    rw [← List.take_append_drop options.batchLimit.toNat jobs] at isListed
    have behind := (List.mem_append.mp isListed).resolve_left outside
    constructor
    · have longer : 0 < (jobs.drop options.batchLimit.toNat).length :=
        List.length_pos_of_mem behind
      rw [List.length_drop] at longer
      rw [List.length_take]
      omega
    · intro earlier inBatch
      rw [← List.take_append_drop options.batchLimit.toNat jobs] at sorted
      exact (List.pairwise_append.mp sorted).2.2 earlier inBatch job behind

theorem areFree_of_eligible {jobs : List JobRow}
    (eligible : ∀ job ∈ jobs, job ∈ db.jobs ∧ Eligible now db job)
    (keysUnique : ∀ first second key, db.Leased first key →
      db.Leased second key → first = second) :
    AreFree [] jobs db := by
  intro job member _
  obtain ⟨inTable, isEligible⟩ := eligible job member
  refine Bool.eq_false_iff.mpr fun shared => ?_
  obtain ⟨key, isKey, rival, different, leased⟩ :=
    JobRow.leasedElsewhere_iff.mp shared
  rcases isEligible with ⟨_, _, noRival⟩ | ⟨isLeased, _⟩
  · obtain ⟨row, found, rowLeased, rowKey⟩ := leased
    exact noRival key isKey row (Table.mem_of_find found) rowLeased rowKey
  · exact different (keysUnique rival job.id key leased
      ⟨job, Table.find_of_mem inTable, isLeased, isKey⟩)

/-- An eligible job that does not follow a job of the batch is in it. -/
theorem IsBatch.mem_of_not_precedes {limit : Int} {batch : List JobRow}
    (isBatch : IsBatch now limit db batch) {earlier later : JobRow}
    (inBatch : later ∈ batch) (inTable : earlier ∈ db.jobs)
    (eligible : Eligible now db earlier)
    (before : ¬ Precedes later earlier) : earlier ∈ batch := by
  by_contra outside
  exact before
    ((isBatch.first earlier inTable eligible outside).2 later inBatch)

theorem claim_of_valid (valid : options.IsValid) :
    claim now options environment db =
      claimLoop now options environment
        (candidates now options environment db) [] db := by
  unfold claim
  rw [if_neg (by have := valid.batch; omega), if_neg (by simp [valid.owner]),
    if_neg (by have := valid.duration; omega)]

theorem handsOver_claimedJob (jobs : List JobRow) :
    List.Forall₂ (HandsOver now options environment)
      (jobs.filter (¬ AtLimit ·))
      ((jobs.filter (!·.isExhausted)).map
        (claimedJob now options environment)) := by
  have sameTest : (fun job : JobRow => !job.isExhausted) =
      fun job => decide (¬ AtLimit job) := by
    funext job
    cases isExhausted : job.isExhausted <;>
      simp [← isExhausted_iff, isExhausted]
  rw [sameTest, List.forall₂_map_right_iff, List.forall₂_same]
  exact fun job _ => claimedJob_handsOver

/-- Without another transaction, in every state that keeps leased keys unique,
a claim that returns handles the jobs of a batch as `Selects` says; and in a
state whose attempts are accounted for it returns. -/
theorem claim_selects (quiet : environment.IsQuiet) (valid : options.IsValid)
    (keysUnique : ∀ first second key, db.Leased first key →
      db.Leased second key → first = second) :
    (∀ claimed after, claim now options environment db =
        .ok (claimed, after) →
      ∃ batch, Selects now options environment db batch claimed after) ∧
    (db.Accounted → (WorkCall.claim options environment).drawsFreshIds db →
      ∃ claimed after, claim now options environment db =
        .ok (claimed, after)) := by
  have areFound : ClaimTx.Found now (candidates now options environment db) db :=
    WorkDb.Accounted.candidates_areFound
  have isBatch := candidates_isBatch quiet valid.batch areFound
  rw [claim_of_valid valid]
  constructor
  · intro claimed after ok
    obtain ⟨returned, handled, unchanged⟩ := claimLoop_selects quiet areFound
      (areFree_of_eligible isBatch.eligible keysUnique) ok
    refine ⟨_, isBatch, returned ▸ handsOver_claimedJob _, handled, unchanged,
      ?_⟩
    intro later isKept earlier inTable eligible before
    have inBatch := isBatch.mem_of_not_precedes
      (firstOfKeys_subset _ isKept) inTable eligible before
    rcases mem_firstOfKeys inBatch with kept |
      ⟨key, isKey, known | ⟨other, otherKept, sameKey⟩⟩
    · exact .inl kept
    · cases known
    · exact .inr ⟨key, isKey, other, otherKept, sameKey⟩
  · intro accounted fresh
    have isRow {candidate : JobRow} (member : candidate ∈
        candidates now options environment db) : candidate ∈ db.jobs :=
      Table.mem_of_find (areFound.found candidate member)
    exact accounted.loops areFound
      ⟨fun candidate member => fresh.1 candidate (isRow member),
        fun first member second memberOther =>
          fresh.2 first (isRow member) second (isRow memberOther)⟩

end Selection

section Samples

/-- Two receipts of one account and another job are enqueued. -/
def enqueuedRun : List (Timestamp × WorkCall) :=
  let enqueue (id : String) (key : Option String) : WorkCall :=
    .enqueue ⟨⟨id⟩, "receipt.ingest", ⟨some 1, []⟩, id, key, 0, 0, 2⟩
  [(0, enqueue "first" (some "receipt:account")),
    (1, enqueue "second" (some "receipt:account")),
    (2, enqueue "third" none)]

def quietClaim : ClaimEnvironment :=
  ⟨fun _ => false, fun _ => false, fun job => ⟨"token:" ++ job.text⟩,
    fun job => ⟨"attempt:" ++ job.text⟩⟩

def batchOfTen : ClaimOptions :=
  ⟨10, "worker", 60⟩

theorem claim_selects_first_of_key :
    ∃ db claimed after,
      runLabels workStep WorkDb.empty enqueuedRun = some db ∧
        claim 3 batchOfTen quietClaim db = .ok (claimed, after) ∧
        claimed.map ClaimedJob.id = [⟨"first"⟩, ⟨"third"⟩] ∧
        ∃ batch, Selects 3 batchOfTen quietClaim db batch claimed after := by
  have runs : ∃ db, runLabels workStep WorkDb.empty enqueuedRun = some db ∧
      ∃ claimed after, claim 3 batchOfTen quietClaim db =
        .ok (claimed, after) ∧
          claimed.map ClaimedJob.id = [⟨"first"⟩, ⟨"third"⟩] :=
    ⟨_, rfl, _, _, rfl, rfl⟩
  obtain ⟨db, ran, claimed, after, ok, ids⟩ := runs
  have accounted : db.Accounted := WorkCall.accounted_of_reaches
    (reaches_of_runLabels (permits_anyStep _ enqueuedRun) ran)
  exact ⟨db, claimed, after, ran, ok, ids,
    (claim_selects ⟨fun _ => rfl, fun _ => rfl⟩ ⟨by decide, by decide, by decide⟩
      accounted.serializationKeys).1 claimed after ok⟩

end Samples

end WorkStore

end ZaloBot
