import ZaloBot.WorkGuarantees

/-!
# Claiming

A claim handles its candidates one after the other.  Candidates are different
jobs, so each step of the loop moves the ledger of one job and leaves the
candidates still to come as they were selected.  The leases a claim returns
are exactly the ones it has issued.
-/

namespace ZaloBot

open LeaseLedger

namespace WorkStore

variable {now : Timestamp} {db after : WorkDb}

/-- Only the rows of one job may differ. -/
structure ChangesOnly (selects : Uuid → Prop) (before after : WorkDb) :
    Prop where
  jobs : ∀ other, ¬ selects other →
    after.jobs.find other = before.jobs.find other
  attempts : ∀ other, ¬ selects other →
    after.attemptsOf other = before.attemptsOf other

/-- A new lease of a job: the token is the holder's and the last one in the
ledger, after the tokens that were there before. -/
def Issues (before after : WorkDb) (job token : Uuid) : Prop :=
  ∃ earlier, after.ledgerOf job =
      ⟨.held token, earlier ++ [⟨token, none⟩]⟩ ∧
    earlier.map Attempt.token =
      (before.ledgerOf job).attempts.map Attempt.token

section Claiming

variable {options : ClaimOptions} {environment : ClaimEnvironment}

/-- The state in which a candidate is leased: an expired lease has had its
attempt closed. -/
def preparedFor (now : Timestamp) (candidate : JobRow) (db : WorkDb) :
    WorkDb :=
  if candidate.state = .leased then
    closeOpenAttempt now candidate.id .lostLease none db
  else
    db

theorem preparedFor_jobs (candidate : JobRow) :
    (preparedFor now candidate db).jobs = db.jobs := by
  unfold preparedFor
  split <;> rfl

/-- The two ways of handling a candidate whose row is as it was selected. -/
theorem takeCandidate_ok {candidate : JobRow} {claimed : Option ClaimedJob}
    (found : db.jobs.find candidate.id = some candidate)
    (active : candidate.isClaimable now = true)
    (ok : takeCandidate now options environment candidate db =
      .ok (claimed, after)) :
    (claimed = none ∧ candidate.isExpired now = true ∧
      candidate.isExhausted = true ∧
      after = updateJob candidate.id (JobRow.isExpired now)
        (JobRow.markDead now "timeout")
        (closeOpenAttempt now candidate.id .lostLease none db)) ∨
    (claimed = some (claimedJob now options environment candidate) ∧
      candidate.isExhausted = false ∧
      candidate.leasedElsewhere db.jobs = false ∧
      insertAttempt (attemptRow now options environment candidate)
        (leaseUpdate now options environment candidate
          (preparedFor now candidate db)) = some after) := by
  have leasing (prepared : WorkDb) (jobs : prepared.jobs = db.jobs)
      (leased : leaseCandidate now options environment candidate prepared =
        .ok (claimed, after)) :
      claimed = some (claimedJob now options environment candidate) ∧
        candidate.leasedElsewhere db.jobs = false ∧
        insertAttempt (attemptRow now options environment candidate)
          (leaseUpdate now options environment candidate
          prepared) = some after := by
    have affected : affectsJob candidate.id (JobRow.isClaimable now)
        prepared = true :=
      affectsJob_iff.mpr ⟨candidate, jobs ▸ found, active⟩
    simp only [leaseCandidate, affected, if_true] at leased
    split at leased
    · contradiction
    · rename_i unshared
      rw [jobs] at unshared
      split at leased
      · contradiction
      · rename_i inserted
        simp only [Except.ok.injEq, Prod.mk.injEq] at leased
        obtain ⟨rfl, rfl⟩ := leased
        exact ⟨rfl, by simpa using unshared, inserted⟩
  unfold takeCandidate at ok
  split at ok
  · rename_i state
    dsimp only at ok
    split at ok
    · rename_i exhausted
      simp only [Except.ok.injEq, Prod.mk.injEq] at ok
      obtain ⟨rfl, rfl⟩ := ok
      refine Or.inl ⟨rfl, ?_, ?_, rfl⟩
      · simpa [JobRow.isClaimable, JobRow.isDue, state] using active
      · simpa [JobRow.isExhausted, state] using exhausted
    · rename_i remaining
      obtain ⟨claims, unshared, inserted⟩ := leasing
        (preparedFor now candidate db) (preparedFor_jobs candidate)
        (by rwa [preparedFor, if_pos state])
      refine Or.inr ⟨claims, ?_, unshared, inserted⟩
      simpa [JobRow.isExhausted, state] using remaining
  · rename_i state
    obtain ⟨claims, unshared, inserted⟩ := leasing
      (preparedFor now candidate db) (preparedFor_jobs candidate)
      (by rwa [preparedFor, if_neg state])
    exact Or.inr ⟨claims, by simp [JobRow.isExhausted, state], unshared,
      inserted⟩

theorem preparedFor_attemptsOf_other {candidate : JobRow} {other : Uuid}
    (different : other ≠ candidate.id) :
    (preparedFor now candidate db).attemptsOf other =
      db.attemptsOf other := by
  unfold preparedFor
  split
  · exact closeOpenAttempt_attemptsOf_other different
  · rfl

theorem preparedFor_checks {candidate : JobRow} (checks : db.Checks) :
    (preparedFor now candidate db).Checks := by
  unfold preparedFor
  split
  · exact closeOpenAttempt_checks checks
  · exact checks

theorem insertAttempt_attemptsOf {attempt : AttemptRow}
    (inserted : insertAttempt attempt db = some after) (job : Uuid) :
    after.attemptsOf job =
      db.attemptsOf job ++ if attempt.jobId = job then [attempt] else [] := by
  rw [WorkDb.attemptsOf, (insertAttempt_spec inserted).2, List.filter_append]
  by_cases same : attempt.jobId = job <;>
    simp [WorkDb.attemptsOf, same]

/-- A job outside the candidate is not touched. -/
theorem takeCandidate_changesOnly {candidate : JobRow}
    {claimed : Option ClaimedJob}
    (found : db.jobs.find candidate.id = some candidate)
    (active : candidate.isClaimable now = true)
    (ok : takeCandidate now options environment candidate db =
      .ok (claimed, after)) :
    ChangesOnly (· = candidate.id) db after := by
  rcases takeCandidate_ok found active ok with
    ⟨_, _, _, rfl⟩ | ⟨_, _, _, inserted⟩
  · exact ⟨fun _ different => updateJob_find_other different,
      fun _ different => closeOpenAttempt_attemptsOf_other different⟩
  · obtain ⟨jobs, _⟩ := insertAttempt_spec inserted
    constructor
    · intro other different
      rw [jobs, leaseUpdate, updateJob_find_other different,
        preparedFor_jobs]
    · intro other different
      rw [insertAttempt_attemptsOf inserted, leaseUpdate,
        updateJob_attemptsOf,
        preparedFor_attemptsOf_other different,
        if_neg (fun same => different same.symm), List.append_nil]

theorem preparedFor_recorded {candidate : JobRow} (checks : db.Checks)
    {attempt : AttemptRow} (member : attempt ∈ db.attempts)
    (recorded : attempt.outcome.isSome) :
    attempt ∈ (preparedFor now candidate db).attempts := by
  unfold preparedFor
  split
  · exact closeOpenAttempt_recorded checks member recorded
  · exact member

/-- The row of a candidate right after its lease. -/
theorem leased_find {candidate : JobRow}
    (found : db.jobs.find candidate.id = some candidate)
    (active : candidate.isClaimable now = true)
    (inserted : insertAttempt (attemptRow now options environment candidate)
      (leaseUpdate now options environment candidate
        (preparedFor now candidate db)) = some after) :
    after.jobs.find candidate.id =
      some ((JobRow.markLeased now (candidate.attemptCount + 1)
        (environment.leaseTokenFor candidate.id) options).apply
          candidate) := by
  have foundPrepared :
      (preparedFor now candidate db).jobs.find candidate.id =
        some candidate := by
    rw [preparedFor_jobs, found]
  rw [(insertAttempt_spec inserted).1]
  exact updateJob_find_self foundPrepared active

/-- The ledger of a candidate right after its lease. -/
theorem leased_ledgerOf {candidate : JobRow}
    (found : db.jobs.find candidate.id = some candidate)
    (active : candidate.isClaimable now = true)
    (inserted : insertAttempt (attemptRow now options environment candidate)
      (leaseUpdate now options environment candidate
        (preparedFor now candidate db)) = some after) :
    after.ledgerOf candidate.id =
      ⟨.held (environment.leaseTokenFor candidate.id),
        ((preparedFor now candidate db).attemptsOf candidate.id).map
            AttemptRow.entry ++
          [⟨environment.leaseTokenFor candidate.id, none⟩]⟩ := by
  rw [WorkDb.ledgerOf_eq_of_found (leased_find found active inserted),
    insertAttempt_attemptsOf inserted]
  simp [attemptRow, AttemptRow.entry, JobRow.markLeased, JobRow.phase,
    leaseUpdate]

/-- The entries a candidate's new attempt is appended to, and the move they
make. -/
theorem preparedFor_entries {candidate : JobRow} (checks : db.Checks)
    (found : db.jobs.find candidate.id = some candidate)
    (active : candidate.isClaimable now = true)
    (token : Uuid)
    (fresh : ∀ attempt ∈ db.attemptsOf candidate.id,
      token ≠ attempt.leaseToken) :
    Move .completed (db.ledgerOf candidate.id)
        ⟨.held token, ((preparedFor now candidate db).attemptsOf
          candidate.id).map AttemptRow.entry ++ [⟨token, none⟩]⟩ ∧
      (((preparedFor now candidate db).attemptsOf candidate.id).map
          AttemptRow.entry).map Attempt.token =
        (db.ledgerOf candidate.id).attempts.map Attempt.token := by
  have unissued : token ∉
      ((db.attemptsOf candidate.id).map AttemptRow.entry).map
        Attempt.token := by
    simp only [List.map_map, List.mem_map, not_exists, not_and]
    intro attempt member same
    exact fresh attempt member same.symm
  rw [WorkDb.ledgerOf_eq_of_found found]
  by_cases leased : candidate.state = .leased
  · obtain ⟨holder, held⟩ :=
      (checks.jobs candidate (Table.mem_of_find found)).phase_of_leased leased
    simp only [preparedFor, if_pos leased, held,
      closeOpenAttempt_entries_self checks, closeAll_tokens, and_true]
    have notDone : AttemptOutcome.lostLease ≠ .completed := by decide
    exact .relet holder token .lostLease _ unissued notDone
  · have queued : candidate.state = .queued := by
      simp only [JobRow.isClaimable, Bool.or_eq_true] at active
      rcases active with due | expired
      · exact JobRow.state_of_isDue due
      · exact absurd (JobRow.state_of_isExpired expired) leased
    have waiting : candidate.phase = .waiting := by
      simp [JobRow.phase, queued]
    simp only [preparedFor, if_neg leased, waiting, and_true]
    exact .lease token _ unissued

theorem attemptRow_checks {candidate : JobRow} (checks : db.Checks)
    (inserted : insertAttempt (attemptRow now options environment candidate)
      db = some after) : after.Checks := by
  obtain ⟨jobs, attempts⟩ := insertAttempt_spec inserted
  refine ⟨jobs ▸ checks.jobs, ?_⟩
  intro attempt member
  rw [Table.mem_def, attempts, List.mem_append, List.mem_singleton] at member
  rcases member with old | rfl
  · exact checks.attempts attempt old
  · simp [attemptRow]

/-- Handling one candidate. -/
theorem takeCandidate_guarantee {candidate : JobRow}
    {claimed : Option ClaimedJob} (checks : db.Checks)
    (found : db.jobs.find candidate.id = some candidate)
    (active : candidate.isClaimable now = true)
    (fresh : ∀ attempt ∈ db.attemptsOf candidate.id,
      environment.leaseTokenFor candidate.id ≠ attempt.leaseToken)
    (ok : takeCandidate now options environment candidate db =
      .ok (claimed, after)) :
    WorkGuarantee db after ∧
      ∀ job ∈ claimed,
        job = claimedJob now options environment candidate ∧
          Issues db after job.id job.leaseToken := by
  rcases takeCandidate_ok found active ok with
    ⟨rfl, expired, _, rfl⟩ | ⟨rfl, _, _, inserted⟩
  · refine ⟨⟨evolves_of_settle checks found expired ?_,
      updateJob_checks (closeOpenAttempt_checks checks)
        fun _ _ _ => JobRow.markDead_checks _ _⟩, by simp⟩
    obtain ⟨holder, held⟩ :=
      (checks.jobs candidate (Table.mem_of_find found)).phase_of_leased
        (JobRow.state_of_isExpired expired)
    intro attempts
    rw [held]
    exact .settle holder _ _ attempts (by decide) (Or.inr (Or.inr rfl))
  · obtain ⟨move, tokens⟩ := preparedFor_entries checks found active _ fresh
    have ledger := leased_ledgerOf found active inserted
    have changes := takeCandidate_changesOnly found active ok
    refine ⟨⟨.of_one_job candidate.id ?_ ?_ ?_, ?_⟩, ?_⟩
    · rwa [ledger]
    · intro other different
      exact WorkDb.ledgerOf_congr (changes.jobs other different)
        (changes.attempts other different)
    · intro attempt member recorded
      rw [Table.mem_def, (insertAttempt_spec inserted).2, List.mem_append]
      exact Or.inl (preparedFor_recorded checks member recorded)
    · refine attemptRow_checks (updateJob_checks (preparedFor_checks checks)
        ?_) inserted
      intro row rowChecks selected
      simp only [JobRow.isClaimable, Bool.or_eq_true] at selected
      exact rowChecks.markLeased (selected.imp JobRow.state_of_isDue
        JobRow.state_of_isExpired) _ _ _ _
    · intro job member
      simp only [Option.mem_def, Option.some.injEq] at member
      subst member
      exact ⟨rfl, _, ledger, tokens⟩

/-- What the claim loop relies on: the remaining candidates are still as they
were selected, claimable, of different jobs, and get unused tokens. -/
structure Selected (now : Timestamp) (environment : ClaimEnvironment)
    (remaining : List JobRow) (db : WorkDb) : Prop where
  found : ∀ candidate ∈ remaining,
    db.jobs.find candidate.id = some candidate
  active : ∀ candidate ∈ remaining, candidate.isClaimable now = true
  nodup : (remaining.map JobRow.id).Nodup
  fresh : ∀ candidate ∈ remaining, ∀ attempt ∈ db.attemptsOf candidate.id,
    environment.leaseTokenFor candidate.id ≠ attempt.leaseToken

theorem Selected.tail {candidate : JobRow} {rest : List JobRow}
    (selected : Selected now environment (candidate :: rest) db) :
    Selected now environment rest db where
  found := fun other member => selected.found other (by simp [member])
  active := fun other member => selected.active other (by simp [member])
  nodup := (List.nodup_cons.mp selected.nodup).2
  fresh := fun other member => selected.fresh other (by simp [member])

/-- Handling a candidate leaves the other candidates as they were. -/
theorem Selected.after_head {candidate : JobRow} {rest : List JobRow}
    (selected : Selected now environment (candidate :: rest) db)
    (changes : ChangesOnly (· = candidate.id) db after) :
    Selected now environment rest after := by
  have different {other : JobRow} (member : other ∈ rest) :
      other.id ≠ candidate.id := by
    intro same
    exact (List.nodup_cons.mp selected.nodup).1
      (same ▸ List.mem_map_of_mem member)
  have remaining := selected.tail
  refine ⟨?_, remaining.active, remaining.nodup, ?_⟩
  · intro other member
    rw [changes.jobs other.id (different member)]
    exact remaining.found other member
  · intro other member
    rw [changes.attempts other.id (different member)]
    exact remaining.fresh other member

theorem Issues.of_unchanged {first middle last : WorkDb} {job token : Uuid}
    (issues : Issues middle last job token)
    (unchanged : middle.ledgerOf job = first.ledgerOf job) :
    Issues first last job token := by
  obtain ⟨earlier, ledger, tokens⟩ := issues
  exact ⟨earlier, ledger, unchanged ▸ tokens⟩

/-- The claim loop makes ledger moves, touches only its candidates, and issues
exactly the leases it returns. -/
theorem claimLoop_guarantee {remaining : List JobRow} {keys : List String}
    {claimed : List ClaimedJob} (checks : db.Checks)
    (selected : Selected now environment remaining db)
    (ok : claimLoop now options environment remaining keys db =
      .ok (claimed, after)) :
    WorkGuarantee db after ∧
      ChangesOnly (· ∈ remaining.map JobRow.id) db after ∧
      ∀ job ∈ claimed, job.id ∈ remaining.map JobRow.id ∧
        Issues db after job.id job.leaseToken := by
  induction remaining generalizing keys db claimed with
  | nil =>
      simp only [claimLoop, Except.ok.injEq, Prod.mk.injEq] at ok
      obtain ⟨rfl, rfl⟩ := ok
      exact ⟨⟨.refl _, checks⟩, ⟨fun _ _ => rfl, fun _ _ => rfl⟩, by simp⟩
  | cons candidate rest ih =>
      unfold claimLoop at ok
      split at ok
      · obtain ⟨⟨taken, middle⟩, takes, ok⟩ := except_bind_eq_ok.mp ok
        obtain ⟨⟨others, final⟩, loops, ok⟩ := except_bind_eq_ok.mp ok
        simp only [Except.ok.injEq, Prod.mk.injEq] at ok
        obtain ⟨rfl, rfl⟩ := ok
        have found := selected.found candidate (by simp)
        have active := selected.active candidate (by simp)
        have changes := takeCandidate_changesOnly found active takes
        obtain ⟨headGuarantee, headIssues⟩ := takeCandidate_guarantee checks
          found active (selected.fresh candidate (by simp)) takes
        obtain ⟨restGuarantee, restChanges, restIssues⟩ :=
          ih headGuarantee.checks (selected.after_head changes) loops
        have headAbsent := (List.nodup_cons.mp selected.nodup).1
        refine ⟨⟨headGuarantee.evolves.trans restGuarantee.evolves,
          restGuarantee.checks⟩, ⟨?_, ?_⟩, ?_⟩
        · intro other outside
          simp only [List.map_cons, List.mem_cons, not_or] at outside
          rw [restChanges.jobs other outside.2, changes.jobs other outside.1]
        · intro other outside
          simp only [List.map_cons, List.mem_cons, not_or] at outside
          rw [restChanges.attempts other outside.2,
            changes.attempts other outside.1]
        · intro job member
          rw [List.mem_append, Option.mem_toList] at member
          rcases member with head | tail
          · obtain ⟨rfl, earlier, ledger, tokens⟩ := headIssues job head
            refine ⟨by simp [claimedJob], earlier, ?_, tokens⟩
            rw [← ledger]
            exact WorkDb.ledgerOf_congr
              (restChanges.jobs candidate.id headAbsent)
              (restChanges.attempts candidate.id headAbsent)
          · obtain ⟨inside, issues⟩ := restIssues job tail
            have different : job.id ≠ candidate.id :=
              fun same => headAbsent (same ▸ inside)
            exact ⟨by simp [inside], issues.of_unchanged
              (WorkDb.ledgerOf_congr (changes.jobs job.id different)
                (changes.attempts job.id different))⟩
      · obtain ⟨guarantee, changes, issues⟩ := ih checks selected.tail ok
        refine ⟨guarantee, ⟨?_, ?_⟩, ?_⟩
        · intro other outside
          exact changes.jobs other (fun inside => outside (by simp [inside]))
        · intro other outside
          exact changes.attempts other
            (fun inside => outside (by simp [inside]))
        · intro job member
          obtain ⟨inside, issued⟩ := issues job member
          exact ⟨by simp [inside], issued⟩

/-- The candidates of a claim are different claimable rows. -/
theorem candidates_found :
    (∀ candidate ∈ candidates now options environment db,
      db.jobs.find candidate.id = some candidate ∧
        candidate.isClaimable now = true) ∧
    ((candidates now options environment db).map JobRow.id).Nodup := by
  constructor
  · intro candidate member
    have kept := (List.mem_filter.mp (List.mem_of_mem_take member)).1
    rw [List.mem_insertionSort, List.mem_filter] at kept
    simp only [isCandidate, Bool.and_eq_true] at kept
    exact ⟨Table.find_of_mem kept.1, kept.2.1⟩
  · have sorted : (((db.jobs.rows.filter (isCandidate now db.jobs)).insertionSort
        claimOrder).map JobRow.id).Nodup := by
      rw [((List.perm_insertionSort claimOrder _).map JobRow.id).nodup_iff]
      exact db.jobs.keysNodup.sublist (List.filter_sublist.map JobRow.id)
    exact sorted.sublist
      (((List.take_sublist _ _).trans List.filter_sublist).map JobRow.id)

/-- The candidates of a claim as the loop needs them. -/
theorem candidates_selected
    (fresh : ∀ attempt ∈ db.attempts,
      environment.leaseTokenFor attempt.jobId ≠ attempt.leaseToken) :
    Selected now environment (candidates now options environment db) db where
  found candidate member := (candidates_found.1 candidate member).1
  active candidate member := (candidates_found.1 candidate member).2
  nodup := candidates_found.2
  fresh candidate _ attempt attemptMem := by
    obtain ⟨member, sameJob⟩ := WorkDb.mem_attemptsOf.mp attemptMem
    exact sameJob ▸ fresh attempt member

theorem claim_guarantee {claimed : List ClaimedJob} (checks : db.Checks)
    (fresh : ∀ attempt ∈ db.attempts,
      environment.leaseTokenFor attempt.jobId ≠ attempt.leaseToken)
    (ok : claim now options environment db = .ok (claimed, after)) :
    WorkGuarantee db after ∧
      ∀ job ∈ claimed, Issues db after job.id job.leaseToken := by
  unfold claim at ok
  split at ok
  · contradiction
  · split at ok
    · contradiction
    · split at ok
      · contradiction
      · obtain ⟨guarantee, _, issues⟩ :=
          claimLoop_guarantee checks (candidates_selected fresh) ok
        exact ⟨guarantee, fun job member => (issues job member).2⟩

end Claiming

end WorkStore

end ZaloBot
