import ZaloBot.WorkRuns

/-!
# Job fencing

In every state a run of the durable-work store reaches, a call that presents a
lease token is rejected without a trace unless the job is leased under that
token and the lease has not run out.  The ledger facts carry over to the
tables: an earlier token never succeeds again, recorded outcomes are final,
a job is completed at most once, and completed and cancelled jobs stay so.
-/

namespace ZaloBot

open LeaseLedger LabelledRuns

/-- The job is leased under the token and the lease has not run out. -/
def WorkDb.HoldsLease (db : WorkDb) (job token : Uuid) (now : Timestamp) :
    Prop :=
  ∃ row deadline, db.jobs.find job = some row ∧ row.state = .leased ∧
    row.leaseToken = some token ∧ row.leaseDeadline = some deadline ∧
      now ≤ deadline

namespace WorkDb

variable {db : WorkDb} {job token : Uuid} {now : Timestamp}

theorem holdsLease_iff :
    db.HoldsLease job token now ↔
      ∃ row, db.jobs.find job = some row ∧
        row.holdsLease token now = true := by
  constructor
  · rintro ⟨row, deadline, found, leased, tokenEq, deadlineEq, current⟩
    exact ⟨row, found, by
      simp [JobRow.holdsLease, leased, tokenEq, deadlineEq, current]⟩
  · rintro ⟨row, found, holds⟩
    simp only [JobRow.holdsLease, Bool.and_eq_true, decide_eq_true_eq,
      Option.any_eq_true] at holds
    obtain ⟨⟨tokenEq, leased⟩, deadline, deadlineEq, current⟩ := holds
    exact ⟨row, deadline, found, leased, tokenEq, deadlineEq, current⟩

theorem affectsJob_of_not_holdsLease
    (stale : ¬ db.HoldsLease job token now) :
    WorkStore.affectsJob job (JobRow.holdsLease token now) db = false := by
  rw [holdsLease_iff, ← WorkStore.affectsJob_iff] at stale
  simpa using stale

theorem HoldsLease.phase (holds : db.HoldsLease job token now) :
    (db.ledgerOf job).phase = .held token := by
  obtain ⟨row, found, held⟩ := holdsLease_iff.mp holds
  rw [ledgerOf_eq_of_found found, JobRow.phase_of_holdsLease held]

end WorkDb

namespace WorkCall

variable {now : Timestamp} {call : WorkCall} {db : WorkDb}
variable {job token : Uuid}

theorem rejected_of_error {Value : Type} {wrap : Value → WorkReply}
    {result : Except StoreError (Value × WorkDb)}
    (bodyEq : call.body now db = reply wrap result)
    (failed : ∃ error, result = .error error) : call.Rejected now db := by
  obtain ⟨error, failed⟩ := failed
  exact ⟨error,
    commitOrRollback_of_error (bodyEq.trans (reply_of_error failed))⟩

theorem heartbeat_stale {leaseDurationSecs : Int}
    (stale : ¬ db.HoldsLease job token now) :
    (heartbeat job token leaseDurationSecs).Rejected now db := by
  have unaffected := WorkDb.affectsJob_of_not_holdsLease stale
  refine rejected_of_error rfl ?_
  by_cases invalid : leaseDurationSecs ≤ 0 <;>
    simp [WorkStore.heartbeat, invalid, unaffected]

theorem complete_stale (stale : ¬ db.HoldsLease job token now) :
    (complete job token).Rejected now db := by
  have unaffected := WorkDb.affectsJob_of_not_holdsLease stale
  refine rejected_of_error rfl ?_
  simp [WorkStore.complete, unaffected]

theorem fail_stale {errorClass : ErrorClass}
    (stale : ¬ db.HoldsLease job token now) :
    (fail job token errorClass).Rejected now db := by
  have missing : (db.jobs.find job).filter (JobRow.holdsLease token now) =
      none := by
    rw [Option.filter_eq_none_iff]
    intro row found holds
    exact stale (WorkDb.holdsLease_iff.mpr ⟨row, found, holds⟩)
  refine rejected_of_error rfl ?_
  simp [WorkStore.fail, missing]

theorem cancel_stale (stale : ¬ db.HoldsLease job token now) :
    (cancel job (some token)).Rejected now db := by
  have unaffected := WorkDb.affectsJob_of_not_holdsLease stale
  refine rejected_of_error rfl ?_
  cases found : db.jobs.find job with
  | none => simp [WorkStore.cancel, WorkStore.cancelActive, found]
  | some row =>
      cases state : row.state <;>
        simp [WorkStore.cancel, WorkStore.cancelActive, found, state,
          WorkStore.cancelLeased, unaffected]

/-- A call presenting a token that is not the current lease's is rejected. -/
theorem presents_stale (presented : call.presents = some (job, token))
    (stale : ¬ db.HoldsLease job token now) : call.Rejected now db := by
  cases call with
  | heartbeat callJob callToken leaseDurationSecs =>
      simp only [presents, Option.some.injEq, Prod.mk.injEq] at presented
      obtain ⟨rfl, rfl⟩ := presented
      exact heartbeat_stale stale
  | complete callJob callToken =>
      simp only [presents, Option.some.injEq, Prod.mk.injEq] at presented
      obtain ⟨rfl, rfl⟩ := presented
      exact complete_stale stale
  | fail callJob callToken errorClass =>
      simp only [presents, Option.some.injEq, Prod.mk.injEq] at presented
      obtain ⟨rfl, rfl⟩ := presented
      exact fail_stale stale
  | cancel callJob leaseToken =>
      cases leaseToken with
      | none => simp [presents] at presented
      | some callToken =>
          simp only [presents, Option.some.injEq, Prod.mk.injEq] at presented
          obtain ⟨rfl, rfl⟩ := presented
          exact cancel_stale stale
  | enqueue _ | claim _ _ | cancelByOperator _
  | cancelQueuedBySerializationKey _ _ | recoverDead _ =>
      simp [presents] at presented

end WorkCall

/-- A claim transaction that leases the job under the token. -/
def ClaimsJob (before after : WorkDb) (job token : Uuid) : Prop :=
  ∃ now options environment jobs,
    (WorkCall.claim options environment).drawsFreshTokens before ∧
    (WorkCall.claim options environment).exec now before =
      (.ok (.claimed jobs), after) ∧
    ∃ claimed ∈ jobs, claimed.id = job ∧ claimed.leaseToken = token

theorem ClaimsJob.reaches {before after : WorkDb} {job token : Uuid}
    (claims : ClaimsJob before after job token) :
    WorkReaches before after := by
  obtain ⟨now, options, environment, jobs, fresh, executed, _⟩ := claims
  refine Relation.ReflTransGen.single
    ⟨(now, .claim options environment), fresh, ?_⟩
  simp [workStep, executed]

theorem ClaimsJob.issues {before after : WorkDb} {job token : Uuid}
    (claims : ClaimsJob before after job token) (checks : before.Checks) :
    WorkStore.Issues before after job token := by
  obtain ⟨now, options, environment, jobs, fresh, executed, claimed, member,
    rfl, rfl⟩ := claims
  cases outcome : (WorkCall.claim options environment).body now before with
  | error error =>
      rw [WorkCall.exec, commitOrRollback_of_error outcome] at executed
      simp at executed
  | ok pair =>
      obtain ⟨answer, committed⟩ := pair
      rw [WorkCall.exec, commitOrRollback_of_ok outcome] at executed
      simp only [Prod.mk.injEq, Except.ok.injEq] at executed
      obtain ⟨rfl, rfl⟩ := executed
      obtain ⟨value, done, wrapped⟩ := WorkCall.reply_eq_ok outcome
      simp only [WorkReply.claimed.injEq] at wrapped
      subst wrapped
      exact (WorkStore.claim_guarantee checks fresh done).2 claimed member

/-- Once a job has been claimed again, its earlier token is not the holder's
in any later state. -/
theorem ClaimsJob.superseded {first second third fourth last : WorkDb}
    {job earlierToken laterToken : Uuid} (invariant : WorkInvariant first)
    (claimed : ClaimsJob first second job earlierToken)
    (between : WorkReaches second third)
    (reclaimed : ClaimsJob third fourth job laterToken)
    (onwards : WorkReaches fourth last) :
    (last.ledgerOf job).phase ≠ .held earlierToken := by
  have invariantSecond := claimed.reaches.invariant invariant
  have invariantThird := between.invariant invariantSecond
  have invariantFourth := reclaimed.reaches.invariant invariantThird
  obtain ⟨firstEarlier, firstLedger, _⟩ := claimed.issues invariant.checks
  obtain ⟨earlier, ledger, tokens⟩ := reclaimed.issues invariantThird.checks
  have kept := Extends.of_moves
    ((between.evolves invariantSecond).moves job)
  rw [firstLedger] at kept
  obtain ⟨later, laterAt, sameToken, _⟩ :=
    kept.attempts firstEarlier.length ⟨earlierToken, none⟩ (by simp)
  have issued : earlierToken ∈ earlier.map Attempt.token := by
    rw [tokens]
    exact List.mem_map.mpr ⟨later, List.mem_of_getElem? laterAt, sameToken⟩
  have extended := Extends.of_moves
    ((onwards.evolves invariantFourth).moves job)
  rw [ledger] at extended
  exact superseded_not_held issued extended
    ((onwards.invariant invariantFourth).ledgers job)

/-- No two attempts of a job are completed. -/
theorem WorkInvariant.completed_unique {db : WorkDb}
    (invariant : WorkInvariant db) {first second : AttemptRow}
    (firstMem : first ∈ db.attempts) (secondMem : second ∈ db.attempts)
    (sameJob : first.jobId = second.jobId)
    (firstDone : first.outcome = some .completed)
    (secondDone : second.outcome = some .completed) : first = second := by
  have firstOf : first ∈ db.attemptsOf second.jobId :=
    WorkDb.mem_attemptsOf.mpr ⟨firstMem, sameJob⟩
  have secondOf : second ∈ db.attemptsOf second.jobId :=
    WorkDb.mem_attemptsOf.mpr ⟨secondMem, rfl⟩
  obtain ⟨firstAt, firstFound⟩ := List.mem_iff_getElem?.mp firstOf
  obtain ⟨secondAt, secondFound⟩ := List.mem_iff_getElem?.mp secondOf
  have samePosition : firstAt = secondAt :=
    (invariant.ledgers second.jobId).done_unique
      (by simp [WorkDb.ledgerOf, firstFound]; rfl)
      (by simp [WorkDb.ledgerOf, secondFound]; rfl) firstDone secondDone
  rw [samePosition, secondFound, Option.some.injEq] at firstFound
  exact firstFound.symm

private theorem found_of_phase {db : WorkDb} {job : Uuid}
    {phase : Phase Uuid} (phaseEq : (db.ledgerOf job).phase = phase)
    (present : phase ≠ .absent) :
    ∃ row, db.jobs.find job = some row ∧ row.phase = phase := by
  cases found : db.jobs.find job with
  | none =>
      simp only [WorkDb.ledgerOf, found, Option.map_none,
        Option.getD_none] at phaseEq
      exact absurd phaseEq.symm present
  | some row =>
      rw [WorkDb.ledgerOf_eq_of_found found] at phaseEq
      exact ⟨row, rfl, phaseEq⟩

private theorem state_of_final_phase {row : JobRow} :
    (row.phase = .finished → row.state = .completed) ∧
      (row.phase = .withdrawn → row.state = .cancelled) := by
  cases state : row.state <;> cases token : row.leaseToken <;>
    simp [JobRow.phase, state, token]

/-- Completed and cancelled jobs stay as they are. -/
theorem WorkEvolves.final_state {before after : WorkDb}
    (evolves : WorkEvolves before after) {row : JobRow}
    (member : row ∈ before.jobs)
    (final : row.state = .completed ∨ row.state = .cancelled) :
    ∃ later, after.jobs.find row.id = some later ∧
      later.state = row.state := by
  have extended := Extends.of_moves (evolves.moves row.id)
  rw [WorkDb.ledgerOf_eq_of_found (Table.find_of_mem member)] at extended
  rcases final with completed | cancelled
  · have finished := extended.finished (by simp [JobRow.phase, completed])
    obtain ⟨later, found, phase⟩ := found_of_phase finished (by simp)
    exact ⟨later, found,
      (state_of_final_phase.1 phase).trans completed.symm⟩
  · have withdrawn := extended.withdrawn (by simp [JobRow.phase, cancelled])
    obtain ⟨later, found, phase⟩ := found_of_phase withdrawn (by simp)
    exact ⟨later, found,
      (state_of_final_phase.2 phase).trans cancelled.symm⟩

/-- Job fencing: in every reachable state a call presenting a token is
rejected unless the token is the job's current, unexpired lease; a job that
has been claimed again never accepts its earlier token; recorded outcomes are
never changed; a job has at most one completed attempt; and completed and
cancelled jobs stay so. -/
theorem job_fencing {db : WorkDb} (reached : WorkReaches WorkDb.empty db) :
    (∀ now (call : WorkCall) job token, call.presents = some (job, token) →
      ¬ db.HoldsLease job token now → call.Rejected now db) ∧
    (∀ second third fourth last job earlierToken laterToken,
      ClaimsJob db second job earlierToken → WorkReaches second third →
      ClaimsJob third fourth job laterToken → WorkReaches fourth last →
        ∀ now (call : WorkCall), call.presents = some (job, earlierToken) →
          call.Rejected now last) ∧
    (∀ later, WorkReaches db later → ∀ attempt ∈ db.attempts,
      attempt.outcome.isSome → attempt ∈ later.attempts) ∧
    (∀ first ∈ db.attempts, ∀ second ∈ db.attempts,
      first.jobId = second.jobId → first.outcome = some .completed →
        second.outcome = some .completed → first = second) ∧
    (∀ later, WorkReaches db later → ∀ row ∈ db.jobs,
      row.state = .completed ∨ row.state = .cancelled →
        ∃ laterRow, later.jobs.find row.id = some laterRow ∧
          laterRow.state = row.state) := by
  have invariant := reached.invariant workInvariant_empty
  refine ⟨?_, ?_, ?_, ?_, ?_⟩
  · intro now call job token presented stale
    exact WorkCall.presents_stale presented stale
  · intro second third fourth last job earlierToken laterToken claimed
      between reclaimed onwards now call presented
    have superseded :=
      claimed.superseded invariant between reclaimed onwards
    exact WorkCall.presents_stale presented
      fun holds => superseded holds.phase
  · intro later run attempt member recorded
    exact (run.evolves invariant).recorded attempt member recorded
  · intro first firstMem second secondMem sameJob firstDone secondDone
    exact invariant.completed_unique firstMem secondMem sameJob firstDone
      secondDone
  · intro later run row member final
    exact (run.evolves invariant).final_state member final

/-- One job, leased for ten seconds at time zero and claimed again twenty
seconds later. -/
def reclaimedRun : List (Timestamp × WorkCall) :=
  let claim (token attempt : String) : WorkCall :=
    .claim ⟨1, "worker", 10⟩
      ⟨fun _ => false, fun _ => false, fun _ => ⟨token⟩, fun _ => ⟨attempt⟩⟩
  [(0, .enqueue ⟨⟨"job"⟩, "receipt.ingest", ⟨some 1, []⟩, "dedupe", none, 0, 0,
      3⟩),
    (0, claim "first" "attempt-1"),
    (20000000, claim "second" "attempt-2")]

theorem reclaimedRun_permits :
    permits workStep (fun db label => label.2.drawsFreshTokens db)
      WorkDb.empty reclaimedRun := by
  refine ⟨by decide, fun next stepTo => ?_⟩
  obtain rfl := Option.some.inj stepTo
  refine ⟨by decide, fun next stepTo => ?_⟩
  obtain rfl := Option.some.inj stepTo
  exact ⟨by decide, fun _ _ => trivial⟩

theorem job_fencing_reclaimed :
    ∃ db, runLabels workStep WorkDb.empty reclaimedRun = some db ∧
      (WorkCall.complete ⟨"job"⟩ ⟨"first"⟩).Rejected 20000000 db := by
  refine ⟨_, rfl, ?_⟩
  refine (job_fencing (reaches_of_runLabels reclaimedRun_permits rfl)).1
    _ _ ⟨"job"⟩ ⟨"first"⟩ rfl ?_
  rw [WorkDb.holdsLease_iff, ← WorkStore.affectsJob_iff]
  decide

end ZaloBot
