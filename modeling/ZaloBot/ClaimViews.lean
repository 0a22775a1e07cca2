import ZaloBot.ClaimConcurrency

/-!
# What claims and other calls do to leases

Calls other than claims keep the rows they do not touch and start no lease.
A claim's view differs from the committed state in the rows of the candidates
it has handled, and every lease it adds is one of a handled candidate.
-/

namespace ZaloBot

/-- A committed lease of a serialization key. -/
def WorkDb.Leased (db : WorkDb) (job : Uuid) (serializationKey : String) :
    Prop :=
  ∃ row, db.jobs.find job = some row ∧ row.state = .leased ∧
    row.serializationKey = some serializationKey

namespace WorkCall

variable {now : Timestamp} {call : WorkCall} {db after : WorkDb}

/-- A row change of a call other than a claim: it selects rows the call
touches, keeps the serialization key and does not start a lease. -/
def Harmless (call : WorkCall) (where_ : JobRow → Bool)
    (set : Table.Setter JobRow.id) : Prop :=
  ∀ row, where_ row = true → call.touches row = true ∧
    (set.apply row).serializationKey = row.serializationKey ∧
    ((set.apply row).state = .leased → row.state = .leased)

/-- Everything a call other than a claim does to the jobs. -/
theorem body_jobs {answer : WorkReply} (notClaim : call.isClaim = false)
    (ok : call.body now db = .ok (answer, after)) :
    (∃ where_ set, call.Harmless where_ set ∧
      after.jobs = db.jobs.update where_ set) ∨
    (∃ row, row.state = .queued ∧ db.jobs.insert row = some after.jobs) := by
  cases call with
  | claim options environment => simp [isClaim] at notClaim
  | enqueue request =>
      obtain ⟨outcome, done, _⟩ := reply_eq_ok ok
      rcases WorkStore.enqueueInTransaction_ok done with
        ⟨_, rfl, _⟩ | ⟨_, _, version, jobs, _, insertion, rfl⟩
      · refine Or.inl ⟨fun _ => false, JobRow.markCompleted now,
          by simp [Harmless], ?_⟩
        exact Table.ext (by simp [Table.update])
      · exact Or.inr ⟨_, rfl, insertion⟩
  | heartbeat job token leaseDurationSecs =>
      obtain ⟨_, done, _⟩ := reply_eq_ok ok
      obtain ⟨row, found, holds, rfl⟩ := WorkStore.heartbeat_ok done
      refine Or.inl ⟨_, _, ?_, rfl⟩
      intro row selected
      simp only [Bool.and_eq_true, decide_eq_true_eq] at selected
      exact ⟨by simp [touches, selected], rfl, id⟩
  | complete job token =>
      obtain ⟨_, done, _⟩ := reply_eq_ok ok
      obtain ⟨row, found, holds, rfl⟩ := WorkStore.complete_ok done
      refine Or.inl ⟨_, _, ?_, rfl⟩
      intro row selected
      simp only [Bool.and_eq_true, decide_eq_true_eq] at selected
      exact ⟨by simp [touches, selected], rfl, by simp [JobRow.markCompleted]⟩
  | fail job token errorClass =>
      obtain ⟨_, done, _⟩ := reply_eq_ok ok
      obtain ⟨row, set, found, holds, branch, rfl⟩ := WorkStore.fail_ok done
      refine Or.inl ⟨_, set, ?_, rfl⟩
      intro row selected
      simp only [Bool.and_eq_true, decide_eq_true_eq] at selected
      refine ⟨by simp [touches, selected], ?_⟩
      rcases branch with ⟨_, _, rfl⟩ | ⟨_, rfl⟩
      · exact ⟨rfl, by simp [JobRow.markRetried]⟩
      · exact ⟨rfl, by simp [JobRow.markDead]⟩
  | cancel job leaseToken =>
      obtain ⟨_, done, _⟩ := reply_eq_ok ok
      obtain ⟨row, found, ⟨queued, rfl⟩ | ⟨guard, leased, selected, rfl⟩⟩ :=
        WorkStore.cancelActive_ok done
      all_goals
        refine Or.inl ⟨_, _, ?_, rfl⟩
        intro row selected
        simp only [Bool.and_eq_true, decide_eq_true_eq] at selected
        exact ⟨by simp [touches, selected], rfl,
          by simp [JobRow.markCancelledQueued, JobRow.markCancelledLeased]⟩
  | cancelByOperator job =>
      obtain ⟨_, done, _⟩ := reply_eq_ok ok
      obtain ⟨row, found, ⟨queued, rfl⟩ | ⟨guard, leased, selected, rfl⟩⟩ :=
        WorkStore.cancelActive_ok done
      all_goals
        refine Or.inl ⟨_, _, ?_, rfl⟩
        intro row selected
        simp only [Bool.and_eq_true, decide_eq_true_eq] at selected
        exact ⟨by simp [touches, selected], rfl,
          by simp [JobRow.markCancelledQueued, JobRow.markCancelledLeased]⟩
  | cancelQueuedBySerializationKey serializationKey seen =>
      obtain ⟨_, done, _⟩ := reply_eq_ok ok
      simp only [WorkStore.cancelQueuedBySerializationKey, Except.ok.injEq,
        Prod.mk.injEq] at done
      obtain ⟨_, rfl⟩ := done
      exact Or.inl ⟨_, _, fun row selected =>
        ⟨selected, rfl, by simp [JobRow.markCancelledQueued]⟩, rfl⟩
  | recoverDead job =>
      obtain ⟨_, done, _⟩ := reply_eq_ok ok
      obtain ⟨row, found, dead, rfl⟩ := WorkStore.recoverDead_ok done
      refine Or.inl ⟨_, _, ?_, rfl⟩
      intro row selected
      simp only [Bool.and_eq_true, decide_eq_true_eq] at selected
      exact ⟨by simp [touches, selected], rfl, by simp [JobRow.markRecovered]⟩

/-- A call other than a claim keeps the rows it does not touch. -/
theorem exec_find_untouched (notClaim : call.isClaim = false)
    {job : Uuid} {row : JobRow} (found : db.jobs.find job = some row)
    (untouched : call.touches row = false) :
    (call.exec now db).2.jobs.find job = some row := by
  cases outcome : call.body now db with
  | error error => rwa [exec, commitOrRollback_of_error outcome]
  | ok pair =>
      obtain ⟨answer, after⟩ := pair
      rw [exec, commitOrRollback_of_ok outcome]
      rcases body_jobs notClaim outcome with
        ⟨where_, set, harmless, jobs⟩ | ⟨new, _, insertion⟩
      · have unselected : where_ row = false := by
          by_contra selected
          rw [Bool.not_eq_false] at selected
          simp [(harmless row selected).1] at untouched
        simp [jobs, found, unselected]
      · have different : new.id ≠ job := by
          intro same
          have absent := (Table.insert_eq_some_iff.mp insertion).1
          rw [same, found] at absent
          contradiction
        rw [Table.find_insert insertion, if_neg different, found]

/-- A call other than a claim starts no lease. -/
theorem exec_leased (notClaim : call.isClaim = false) {job : Uuid}
    {serializationKey : String}
    (leased : (call.exec now db).2.Leased job serializationKey) :
    db.Leased job serializationKey := by
  cases outcome : call.body now db with
  | error error => rwa [exec, commitOrRollback_of_error outcome] at leased
  | ok pair =>
      obtain ⟨answer, after⟩ := pair
      rw [exec, commitOrRollback_of_ok outcome] at leased
      obtain ⟨row, found, state, key⟩ := leased
      rcases body_jobs notClaim outcome with
        ⟨where_, set, harmless, jobs⟩ | ⟨new, queued, insertion⟩
      · simp only [jobs, Table.find_update, Option.map_eq_some_iff] at found
        obtain ⟨old, oldFound, rfl⟩ := found
        by_cases selected : where_ old = true
        · simp only [selected, if_true] at state key
          obtain ⟨_, sameKey, starts⟩ := harmless old selected
          exact ⟨old, oldFound, starts state, sameKey ▸ key⟩
        · rw [if_neg selected] at state key
          exact ⟨old, oldFound, state, key⟩
      · rw [Table.find_insert insertion] at found
        split at found
        · simp only [Option.some.injEq] at found
          rw [← found, queued] at state
          contradiction
        · exact ⟨row, found, state, key⟩

end WorkCall

namespace WorkStore

variable {now : Timestamp} {db after : WorkDb} {candidate : JobRow}
variable {options : ClaimOptions} {environment : ClaimEnvironment}

/-- The row a handled candidate ends with. -/
theorem takeCandidate_row {claimed : Option ClaimedJob}
    (found : db.jobs.find candidate.id = some candidate)
    (active : candidate.isClaimable now = true)
    (ok : takeCandidate now options environment candidate db =
      .ok (claimed, after)) :
    ∃ row, after.jobs.find candidate.id = some row ∧
      row.serializationKey = candidate.serializationKey ∧
      (row.state = .leased → candidate.isExhausted = false) ∧
      (claimed = none → candidate.isExhausted = true) := by
  rcases takeCandidate_ok found active ok with
    ⟨rfl, expired, exhausted, rfl⟩ | ⟨rfl, remaining, _, inserted⟩
  · exact ⟨_, updateJob_find_self found expired, rfl,
      by simp [JobRow.markDead], fun _ => exhausted⟩
  · exact ⟨_, leased_find found active inserted, rfl, fun _ => remaining,
      by simp⟩

/-- The only errors of a candidate's writes. -/
theorem takeCandidate_error {error : StoreError}
    (free : candidate.leasedElsewhere db.jobs = false)
    (failed : takeCandidate now options environment candidate db =
      .error error) :
    error = .dependency "claim attempt insert failed" := by
  have leasing (prepared : WorkDb) (jobs : prepared.jobs = db.jobs)
      (failed : leaseCandidate now options environment candidate prepared =
        .error error) :
      error = .dependency "claim attempt insert failed" := by
    simp only [leaseCandidate, jobs, free, Bool.false_eq_true,
      if_false] at failed
    split at failed
    · split at failed
      · simpa using failed.symm
      · contradiction
    · contradiction
  unfold takeCandidate at failed
  split at failed
  · dsimp only at failed
    split at failed
    · contradiction
    · refine leasing (closeOpenAttempt now candidate.id .lostLease none db)
        rfl failed
  · exact leasing db rfl failed

end WorkStore

namespace ClaimTx

variable {tx : ClaimTx} {db : WorkDb}

/-- Candidates of different jobs whose rows are as they were locked. -/
structure Found (now : Timestamp) (rows : List JobRow) (db : WorkDb) :
    Prop where
  found : ∀ candidate ∈ rows, db.jobs.find candidate.id = some candidate
  active : ∀ candidate ∈ rows, candidate.isClaimable now = true
  nodup : (rows.map JobRow.id).Nodup

theorem replay_find_other {candidate : JobRow}
    (found : db.jobs.find candidate.id = some candidate)
    (active : candidate.isClaimable tx.now = true) {other : Uuid}
    (different : other ≠ candidate.id) :
    (tx.replay db candidate).jobs.find other = db.jobs.find other := by
  unfold replay
  split
  · rename_i ok
    exact (WorkStore.takeCandidate_changesOnly found active ok).jobs other
      different
  · rfl

theorem replay_find_self {candidate : JobRow}
    (found : db.jobs.find candidate.id = some candidate)
    (active : candidate.isClaimable tx.now = true) :
    ∃ row, (tx.replay db candidate).jobs.find candidate.id = some row ∧
      row.serializationKey = candidate.serializationKey ∧
      (row.state = .leased →
        candidate.isExhausted = false ∨ candidate.state = .leased) := by
  unfold replay
  split
  · rename_i ok
    obtain ⟨row, rowFound, sameKey, renewed, _⟩ :=
      WorkStore.takeCandidate_row found active ok
    exact ⟨row, rowFound, sameKey, fun leased => Or.inl (renewed leased)⟩
  · exact ⟨candidate, found, rfl, Or.inr⟩

/-- A change of the first candidate leaves the others as they were. -/
theorem Found.after_head {now : Timestamp} {candidate : JobRow}
    {rest : List JobRow} {after : WorkDb}
    (found : Found now (candidate :: rest) db)
    (same : ∀ other, other ≠ candidate.id →
      after.jobs.find other = db.jobs.find other) :
    Found now rest after where
  found := by
    intro other member
    have different : other.id ≠ candidate.id := by
      intro same
      exact (List.nodup_cons.mp found.nodup).1
        (same ▸ List.mem_map_of_mem member)
    rw [same other.id different]
    exact found.found other (by simp [member])
  active := fun other member => found.active other (by simp [member])
  nodup := (List.nodup_cons.mp found.nodup).2

theorem Found.tail {candidate : JobRow} {rest : List JobRow}
    (found : Found tx.now (candidate :: rest) db) :
    Found tx.now rest (tx.replay db candidate) :=
  found.after_head fun _ different =>
    replay_find_other (found.found candidate (by simp))
      (found.active candidate (by simp)) different

/-- Replaying candidates changes their rows only. -/
theorem foldl_replay_find_other {rows : List JobRow}
    (found : Found tx.now rows db) {other : Uuid}
    (outside : other ∉ rows.map JobRow.id) :
    (rows.foldl tx.replay db).jobs.find other = db.jobs.find other := by
  induction rows generalizing db with
  | nil => rfl
  | cons candidate rest ih =>
      simp only [List.map_cons, List.mem_cons, not_or] at outside
      rw [List.foldl_cons, ih found.tail outside.2,
        replay_find_other (found.found candidate (by simp))
          (found.active candidate (by simp)) outside.1]

theorem foldl_replay_find {rows : List JobRow}
    (found : Found tx.now rows db) {candidate : JobRow}
    (member : candidate ∈ rows) :
    ∃ row, (rows.foldl tx.replay db).jobs.find candidate.id = some row ∧
      row.serializationKey = candidate.serializationKey ∧
      (row.state = .leased →
        candidate.isExhausted = false ∨ candidate.state = .leased) := by
  induction rows generalizing db with
  | nil => simp at member
  | cons head rest ih =>
      rw [List.foldl_cons]
      rcases List.mem_cons.mp member with rfl | inRest
      · rw [foldl_replay_find_other found.tail
          (List.nodup_cons.mp found.nodup).1]
        exact replay_find_self (found.found candidate (by simp))
          (found.active candidate (by simp))
      · exact ih found.tail inRest

/-- A lease in the transaction's view is a committed one or one of a
candidate it has leased. -/
theorem view_leased (found : Found tx.now tx.taken db) {job : Uuid}
    {serializationKey : String}
    (leased : (tx.view db).Leased job serializationKey) :
    db.Leased job serializationKey ∨
      ∃ candidate ∈ tx.taken, candidate.id = job ∧
        candidate.serializationKey = some serializationKey ∧
        candidate.isExhausted = false := by
  obtain ⟨row, rowFound, state, key⟩ := leased
  by_cases inside : job ∈ tx.taken.map JobRow.id
  · obtain ⟨candidate, member, rfl⟩ := List.mem_map.mp inside
    obtain ⟨image, imageFound, sameKey, renewed⟩ :=
      foldl_replay_find found member
    rw [view, imageFound, Option.some.injEq] at rowFound
    subst rowFound
    rcases renewed state with remaining | wasLeased
    · exact Or.inr ⟨candidate, member, rfl, sameKey ▸ key, remaining⟩
    · exact Or.inl ⟨candidate, found.found candidate member, wasLeased,
        sameKey ▸ key⟩
  · rw [view, foldl_replay_find_other found inside] at rowFound
    exact Or.inl ⟨row, rowFound, state, key⟩

/-- A committed lease outside the handled candidates is in the view. -/
theorem leased_view (found : Found tx.now tx.taken db) {job : Uuid}
    {serializationKey : String}
    (outside : job ∉ tx.taken.map JobRow.id)
    (leased : db.Leased job serializationKey) :
    (tx.view db).Leased job serializationKey := by
  obtain ⟨row, rowFound, state, key⟩ := leased
  exact ⟨row, by rw [view, foldl_replay_find_other found outside, rowFound],
    state, key⟩

end ClaimTx

theorem JobRow.leasedElsewhere_iff {row : JobRow} {db : WorkDb} :
    row.leasedElsewhere db.jobs = true ↔
      ∃ serializationKey, row.serializationKey = some serializationKey ∧
        ∃ other, other ≠ row.id ∧ db.Leased other serializationKey := by
  simp only [JobRow.leasedElsewhere, Option.any_eq_true, List.any_eq_true,
    Bool.and_eq_true, decide_eq_true_eq]
  constructor
  · rintro ⟨serializationKey, key, active, member, ⟨activeKey, state⟩,
      different⟩
    exact ⟨serializationKey, key, active.id, different, active,
      Table.find_of_mem member, state, activeKey⟩
  · rintro ⟨serializationKey, key, other, different, active, found, state,
      activeKey⟩
    refine ⟨serializationKey, key, active, Table.mem_of_find found,
      ⟨activeKey, state⟩, ?_⟩
    rwa [Table.key_of_find found]

end ZaloBot
