import ZaloBot.WorkLedger

/-!
# What the durable-work operations guarantee

Each successful transaction body of the store, claims aside, makes ledger
moves only and leaves tables that satisfy their `CHECK`s.
-/

namespace ZaloBot

open LeaseLedger

/-- What every successful transaction body guarantees. -/
structure WorkGuarantee (before after : WorkDb) : Prop where
  evolves : WorkEvolves before after
  checks : after.Checks

namespace WorkStore

variable {now : Timestamp} {db after : WorkDb}

/-- Both ways an enqueue can succeed. -/
theorem enqueueInTransaction_ok {request : EnqueueRequest}
    {outcome : EnqueueOutcome}
    (ok : enqueueInTransaction now request db = .ok (outcome, after)) :
    (outcome = .duplicate ∧ after = db ∧
      ∃ row ∈ db.jobs, row.dedupeKey = request.dedupeKey) ∨
    (outcome = .enqueued ∧
      (∀ row ∈ db.jobs, row.dedupeKey ≠ request.dedupeKey) ∧
      ∃ version jobs, validateEnqueueRequest request = .ok version ∧
        db.jobs.insert (queuedRow now version request) = some jobs ∧
          after = { db with jobs := jobs }) := by
  unfold enqueueInTransaction at ok
  split at ok
  · contradiction
  · rename_i version valid
    split at ok
    · rename_i taken
      simp only [Except.ok.injEq, Prod.mk.injEq] at ok
      obtain ⟨rfl, rfl⟩ := ok
      exact Or.inl ⟨rfl, rfl, by simpa [Table.mem_def] using taken⟩
    · rename_i free
      split at ok
      · contradiction
      · rename_i jobs insertion
        simp only [Except.ok.injEq, Prod.mk.injEq] at ok
        obtain ⟨rfl, rfl⟩ := ok
        exact Or.inr ⟨rfl, by simpa [Table.mem_def] using free,
          version, jobs, valid, insertion, rfl⟩

theorem queuedRow_checks (version : Int) (request : EnqueueRequest) :
    (queuedRow now version request).Checks := by
  constructor <;> simp [queuedRow]

theorem enqueueInTransaction_guarantee {request : EnqueueRequest}
    {outcome : EnqueueOutcome} (checks : db.Checks)
    (ok : enqueueInTransaction now request db = .ok (outcome, after)) :
    WorkGuarantee db after := by
  rcases enqueueInTransaction_ok ok with
    ⟨_, rfl, _⟩ | ⟨_, _, version, jobs, _, insertion, rfl⟩
  · exact ⟨.refl after, checks⟩
  · have absent : db.jobs.find request.id = none :=
      (Table.insert_eq_some_iff.mp insertion).1
    have finds := Table.find_insert insertion
    refine ⟨.of_one_job request.id ?_ ?_ (fun _ member _ => member), ?_, ?_⟩
    · have enlisted : Move AttemptOutcome.completed ⟨.absent, _⟩ ⟨.waiting, _⟩ :=
        .enlist ((db.attemptsOf request.id).map AttemptRow.entry)
      simpa [WorkDb.ledgerOf, WorkDb.attemptsOf, finds, queuedRow, absent,
        JobRow.phase] using enlisted
    · intro other different
      refine WorkDb.ledgerOf_congr ?_ rfl
      rw [finds, if_neg]
      exact fun same => different same.symm
    · intro row member
      rcases (Table.mem_insert insertion).mp member with old | rfl
      · exact checks.jobs row old
      · exact queuedRow_checks version request
    · exact checks.attempts

/-- A heartbeat succeeds under the current lease only. -/
theorem heartbeat_ok {job token : Uuid} {leaseDurationSecs : Int}
    {leaseDeadline : Timestamp}
    (ok : heartbeat now job token leaseDurationSecs db =
      .ok (leaseDeadline, after)) :
    ∃ row, db.jobs.find job = some row ∧ row.holdsLease token now = true ∧
      after = updateJob job (JobRow.holdsLease token now)
        (JobRow.markRenewed now leaseDurationSecs) db := by
  unfold heartbeat at ok
  split at ok
  · contradiction
  · split at ok
    · rename_i affected
      simp only [Except.ok.injEq, Prod.mk.injEq] at ok
      obtain ⟨row, found, holds⟩ := affectsJob_iff.mp affected
      exact ⟨row, found, holds, ok.2.symm⟩
    · contradiction

theorem heartbeat_guarantee {job token : Uuid} {leaseDurationSecs : Int}
    {leaseDeadline : Timestamp} (checks : db.Checks)
    (ok : heartbeat now job token leaseDurationSecs db =
      .ok (leaseDeadline, after)) : WorkGuarantee db after := by
  obtain ⟨row, found, holds, rfl⟩ := heartbeat_ok ok
  refine ⟨evolves_of_update found holds ?_, updateJob_checks checks ?_⟩
  · intro attempts
    have samePhase : ((JobRow.markRenewed now leaseDurationSecs).apply
        row).phase = row.phase := rfl
    rw [samePhase, JobRow.phase_of_holdsLease holds]
    exact .renew token attempts
  · intro row rowChecks holds
    exact rowChecks.markRenewed (JobRow.state_of_holdsLease holds) _ _

/-- A completion succeeds under the current lease only. -/
theorem complete_ok {job token : Uuid}
    (ok : complete now job token db = .ok ((), after)) :
    ∃ row, db.jobs.find job = some row ∧ row.holdsLease token now = true ∧
      after = closeOpenAttempt now job .completed none
        (updateJob job (JobRow.holdsLease token now)
          (JobRow.markCompleted now) db) := by
  unfold complete at ok
  split at ok
  · rename_i affected
    simp only [Except.ok.injEq, Prod.mk.injEq, true_and] at ok
    obtain ⟨row, found, holds⟩ := affectsJob_iff.mp affected
    exact ⟨row, found, holds, ok.symm⟩
  · contradiction

theorem complete_guarantee {job token : Uuid} (checks : db.Checks)
    (ok : complete now job token db = .ok ((), after)) :
    WorkGuarantee db after := by
  obtain ⟨row, found, holds, rfl⟩ := complete_ok ok
  refine ⟨evolves_of_settle checks found holds ?_,
    updateJob_checks (closeOpenAttempt_checks checks) ?_⟩
  · intro attempts
    rw [JobRow.phase_of_holdsLease holds]
    exact .finish token attempts
  · exact fun _ _ _ => JobRow.markCompleted_checks now

private theorem cancelLeased_ok {job : Uuid} {guard : JobRow → Bool}
    (ok : cancelLeased now job guard db = .ok ((), after)) :
    ∃ row, db.jobs.find job = some row ∧ guard row = true ∧
      after = closeOpenAttempt now job .cancelled none
        (updateJob job guard (JobRow.markCancelledLeased now) db) := by
  unfold cancelLeased at ok
  split at ok
  · rename_i affected
    simp only [Except.ok.injEq, Prod.mk.injEq, true_and] at ok
    obtain ⟨row, found, selected⟩ := affectsJob_iff.mp affected
    exact ⟨row, found, selected, ok.symm⟩
  · contradiction

/-- A cancellation succeeds on a queued job, or on a leased one whose lease it
ends. -/
theorem cancelActive_ok {job : Uuid} {leaseToken : Option Uuid}
    {operatorOverride : Bool}
    (ok : cancelActive now job leaseToken operatorOverride db =
      .ok ((), after)) :
    ∃ row, db.jobs.find job = some row ∧
      ((row.state = .queued ∧
        after = updateJob job (fun row => row.state = .queued)
          (JobRow.markCancelledQueued now) db) ∨
      ∃ guard : JobRow → Bool,
        (∀ row, guard row = true → row.state = .leased) ∧
        guard row = true ∧
        after = closeOpenAttempt now job .cancelled none
          (updateJob job guard (JobRow.markCancelledLeased now) db)) := by
  have cancelled (guard : JobRow → Bool)
      (leased : ∀ row, guard row = true → row.state = .leased)
      (ok : cancelLeased now job guard db = .ok ((), after)) :
      ∃ row, db.jobs.find job = some row ∧
        ∃ guard : JobRow → Bool,
          (∀ row, guard row = true → row.state = .leased) ∧
          guard row = true ∧
          after = closeOpenAttempt now job .cancelled none
            (updateJob job guard (JobRow.markCancelledLeased now) db) := by
    obtain ⟨row, found, selected, effect⟩ := cancelLeased_ok ok
    exact ⟨row, found, guard, leased, selected, effect⟩
  unfold cancelActive at ok
  split at ok
  · contradiction
  · rename_i row found
    split at ok
    · rename_i queued
      split at ok
      · contradiction
      · simp only [Except.ok.injEq, Prod.mk.injEq, true_and] at ok
        exact ⟨row, found, Or.inl ⟨queued, ok.symm⟩⟩
    · split at ok
      · obtain ⟨row, found, effect⟩ := cancelled _ (by simp) ok
        exact ⟨row, found, Or.inr effect⟩
      · split at ok
        · contradiction
        · obtain ⟨row, found, effect⟩ :=
            cancelled _ (fun _ => JobRow.state_of_holdsLease) ok
          exact ⟨row, found, Or.inr effect⟩
    · contradiction

theorem cancelActive_guarantee {job : Uuid} {leaseToken : Option Uuid}
    {operatorOverride : Bool} (checks : db.Checks)
    (ok : cancelActive now job leaseToken operatorOverride db =
      .ok ((), after)) : WorkGuarantee db after := by
  obtain ⟨row, found, ⟨queued, rfl⟩ | ⟨guard, leased, selected, rfl⟩⟩ :=
    cancelActive_ok ok
  · refine ⟨evolves_of_update found (by simp [queued]) ?_,
      updateJob_checks checks ?_⟩
    · intro attempts
      simp only [JobRow.phase, queued]
      exact .withdraw attempts
    · intro row rowChecks selected
      exact rowChecks.markCancelledQueued (by simpa using selected) now
  · obtain ⟨holder, held⟩ :=
      (checks.jobs row (Table.mem_of_find found)).phase_of_leased
        (leased row selected)
    refine ⟨evolves_of_settle checks found selected ?_,
      updateJob_checks (closeOpenAttempt_checks checks)
        fun _ _ _ => JobRow.markCancelledLeased_checks now⟩
    intro attempts
    rw [held]
    exact .settle holder _ _ attempts (by decide) (by
      simp [JobRow.markCancelledLeased, JobRow.phase])

/-- Only a dead job is recovered. -/
theorem recoverDead_ok {job : Uuid}
    (ok : recoverDead now job db = .ok ((), after)) :
    ∃ row, db.jobs.find job = some row ∧ row.state = .dead ∧
      after = updateJob job (fun row => row.state = .dead)
        (JobRow.markRecovered now) db := by
  unfold recoverDead at ok
  split at ok
  · rename_i affected
    simp only [Except.ok.injEq, Prod.mk.injEq, true_and] at ok
    obtain ⟨row, found, selected⟩ := affectsJob_iff.mp affected
    exact ⟨row, found, by simpa using selected, ok.symm⟩
  · contradiction

theorem recoverDead_guarantee {job : Uuid} (checks : db.Checks)
    (ok : recoverDead now job db = .ok ((), after)) :
    WorkGuarantee db after := by
  obtain ⟨row, found, dead, rfl⟩ := recoverDead_ok ok
  refine ⟨evolves_of_update found (by simp [dead]) ?_,
    updateJob_checks checks fun _ _ _ => JobRow.markRecovered_checks now⟩
  intro attempts
  simp only [JobRow.phase, dead]
  exact .revive attempts

/-- The lookup of `fail` finds the job under its current lease. -/
theorem fail_ok {job token : Uuid} {errorClass : ErrorClass}
    {outcome : FailOutcome}
    (ok : fail now job token errorClass db = .ok (outcome, after)) :
    ∃ row set, db.jobs.find job = some row ∧
      row.holdsLease token now = true ∧
      ((outcome = .retried ∧ row.attemptCount < row.maxAttempts ∧
          set = JobRow.markRetried now (retryDelaySecs row.attemptCount)
            errorClass.asStr) ∨
        (outcome = .deadLettered ∧
          set = JobRow.markDead now errorClass.asStr)) ∧
      after = updateJob job (stillLeased token) set
        (closeOpenAttempt now job .failed (some errorClass.asStr) db) := by
  unfold fail at ok
  split at ok
  · contradiction
  · rename_i row lookup
    obtain ⟨found, holds⟩ := Option.filter_eq_some_iff.mp lookup
    dsimp only at ok
    split at ok <;> simp only [Except.ok.injEq, Prod.mk.injEq] at ok
    · rename_i retried
      simp only [Bool.and_eq_true, decide_eq_true_eq] at retried
      exact ⟨row, _, found, holds, Or.inl ⟨ok.1.symm, retried.2, rfl⟩,
        ok.2.symm⟩
    · exact ⟨row, _, found, holds, Or.inr ⟨ok.1.symm, rfl⟩, ok.2.symm⟩

theorem stillLeased_of_holdsLease {row : JobRow} {token : Uuid}
    (holds : row.holdsLease token now = true) :
    stillLeased token row = true := by
  simp [stillLeased, JobRow.state_of_holdsLease holds,
    JobRow.leaseToken_of_holdsLease holds]

theorem fail_guarantee {job token : Uuid} {errorClass : ErrorClass}
    {outcome : FailOutcome} (checks : db.Checks)
    (ok : fail now job token errorClass db = .ok (outcome, after)) :
    WorkGuarantee db after := by
  obtain ⟨row, set, found, holds, branch, rfl⟩ := fail_ok ok
  refine ⟨evolves_of_settle checks found (stillLeased_of_holdsLease holds) ?_,
    updateJob_checks (closeOpenAttempt_checks checks) ?_⟩
  · intro attempts
    rw [JobRow.phase_of_holdsLease holds]
    refine .settle token _ _ attempts (by decide) ?_
    rcases branch with ⟨_, _, rfl⟩ | ⟨_, rfl⟩
    · exact Or.inl rfl
    · exact Or.inr (Or.inr rfl)
  · intro row rowChecks selected
    simp only [stillLeased, Bool.and_eq_true, decide_eq_true_eq] at selected
    rcases branch with ⟨_, _, rfl⟩ | ⟨_, rfl⟩
    · exact rowChecks.markRetried selected.2 _ _ _
    · exact JobRow.markDead_checks _ _

theorem cancelQueuedBySerializationKey_guarantee {serializationKey : String}
    {seen : Uuid → Bool} {count : Nat} (checks : db.Checks)
    (ok : cancelQueuedBySerializationKey now serializationKey seen db =
      .ok (count, after)) : WorkGuarantee db after := by
  simp only [cancelQueuedBySerializationKey, Except.ok.injEq,
    Prod.mk.injEq] at ok
  obtain ⟨_, rfl⟩ := ok
  have queued {row : JobRow} (selected :
      (queuedUnder serializationKey row && seen row.id) = true) :
      row.state = .queued := by
    simp only [queuedUnder, Bool.and_eq_true, decide_eq_true_eq] at selected
    exact selected.1.2
  refine ⟨⟨fun job => ?_, fun _ member _ => member⟩, ?_, checks.attempts⟩
  · simp only [WorkDb.ledgerOf, Table.find_update]
    cases found : db.jobs.find job with
    | none => exact .refl
    | some row =>
        by_cases selected :
            (queuedUnder serializationKey row && seen row.id) = true
        · refine .single ?_
          simp only [Option.map_some, Option.getD_some, selected, if_true,
            JobRow.phase, queued selected]
          exact .withdraw _
        · simp only [Option.map_some, selected]
          exact .refl
  · intro row member
    obtain ⟨old, oldMem, rfl⟩ := Table.mem_update.mp member
    split
    · rename_i selected
      exact (checks.jobs old oldMem).markCancelledQueued (queued selected) now
    · exact checks.jobs old oldMem

end WorkStore

end ZaloBot
