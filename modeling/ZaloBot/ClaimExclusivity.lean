import ZaloBot.ClaimViews

/-!
# Serialization exclusivity

The invariant behind exclusive serialization keys: an uncommitted lease of a
key belongs to the transaction that holds the key's advisory lock, and no
other committed or uncommitted lease of the key exists.  Every action of a
worker respects what the other workers rely on: it does not change rows they
have locked and it publishes leases only under advisory locks of its own.
-/

namespace ZaloBot

open TaskPool LabelledRuns

namespace ClaimConcurrency

/-- What the committed state and the uncommitted index entries satisfy. -/
structure Exclusive (hash : String → Int) (world : ClaimWorld) : Prop where
  committed : ∀ first second serializationKey,
    world.db.Leased first serializationKey →
      world.db.Leased second serializationKey → first = second
  advisory : ∀ entry ∈ world.leaseEntries,
    world.advisoryLocks (hash entry.serializationKey) = some entry.worker
  noOther : ∀ entry ∈ world.leaseEntries, ∀ job,
    world.db.Leased job entry.serializationKey → job = entry.job
  oneEntry : ∀ first ∈ world.leaseEntries, ∀ second ∈ world.leaseEntries,
    first.serializationKey = second.serializationKey → first.job = second.job

/-- No uncommitted index entry belongs to the worker. -/
def NoEntries (world : ClaimWorld) (worker : Nat) : Prop :=
  ∀ entry ∈ world.leaseEntries, entry.worker ≠ worker

/-- The candidates a transaction has handled and those still to come. -/
structure Batch (world : ClaimWorld) (worker : Nat) (tx : ClaimTx)
    (remaining : List JobRow) : Prop where
  locked : ∀ candidate ∈ tx.taken ++ remaining,
    world.rowLocks candidate.id = some worker
  found : ClaimTx.Found tx.now (tx.taken ++ remaining) world.db
  entered : ∀ candidate ∈ tx.taken, ∀ serializationKey,
    candidate.serializationKey = some serializationKey →
      candidate.isExhausted = false →
        ⟨worker, candidate.id, serializationKey⟩ ∈ world.leaseEntries
  takenKeys : ∀ candidate ∈ tx.taken, ∀ serializationKey,
    candidate.serializationKey = some serializationKey →
      serializationKey ∈ tx.keys
  entryKeys : ∀ entry ∈ world.leaseEntries, entry.worker = worker →
    entry.serializationKey ∈ tx.keys

/-- The key is in the key set of the batch, but no candidate of it has been
handled yet. -/
structure Reserved (world : ClaimWorld) (worker : Nat) (tx : ClaimTx)
    (serializationKey : String) : Prop where
  listed : serializationKey ∈ tx.keys
  taken : ∀ candidate ∈ tx.taken,
    candidate.serializationKey ≠ some serializationKey
  entries : ∀ entry ∈ world.leaseEntries, entry.worker = worker →
    entry.serializationKey ≠ serializationKey

/-- What holds of a transaction in each of its phases. -/
def PhaseHolds (hash : String → Int) (world : ClaimWorld) (worker : Nat)
    (tx : ClaimTx) : ClaimPhase → Prop
  | .selecting remaining => tx.taken = [] ∧
      Batch world worker tx tx.locked ∧
      ((tx.locked ++ remaining).map JobRow.id).Nodup
  | .looping remaining => Batch world worker tx remaining
  | .keyLocking serializationKey candidate remaining =>
      candidate.serializationKey = some serializationKey ∧
      Batch world worker tx (candidate :: remaining) ∧
      Reserved world worker tx serializationKey
  | .rechecking serializationKey candidate remaining =>
      candidate.serializationKey = some serializationKey ∧
      Batch world worker tx (candidate :: remaining) ∧
      Reserved world worker tx serializationKey ∧
      world.advisoryLocks (hash serializationKey) = some worker
  | .writing candidate remaining =>
      Batch world worker tx (candidate :: remaining) ∧
      ∀ serializationKey,
        candidate.serializationKey = some serializationKey →
          Reserved world worker tx serializationKey ∧
          world.advisoryLocks (hash serializationKey) = some worker ∧
          ∀ job, world.db.Leased job serializationKey → job = candidate.id
  | .published => NoEntries world worker
  | .failed error => NoEntries world worker ∧
      error ≠ .dependency "claim update failed"

/-- What holds of a worker with or without an open transaction. -/
def WorkerHolds (hash : String → Int) (world : ClaimWorld) (worker : Nat) :
    Option ClaimTx → Prop
  | none => NoEntries world worker
  | some tx => PhaseHolds hash world worker tx tx.phase

/-- A change of the world that a worker does not notice. -/
structure Undisturbed (hash : String → Int) (worker : Nat)
    (before after : ClaimWorld) : Prop where
  rows : ∀ job row, before.rowLocks job = some worker →
    before.db.jobs.find job = some row →
      after.rowLocks job = some worker ∧
        after.db.jobs.find job = some row
  advisory : ∀ number, before.advisoryLocks number = some worker →
    after.advisoryLocks number = some worker
  entries : ∀ entry, entry.worker = worker →
    (entry ∈ after.leaseEntries ↔ entry ∈ before.leaseEntries)
  leases : ∀ job serializationKey,
    before.advisoryLocks (hash serializationKey) = some worker →
      after.db.Leased job serializationKey →
        before.db.Leased job serializationKey

section Stability

variable {hash : String → Int} {worker : Nat} {before after : ClaimWorld}
variable {tx : ClaimTx} {remaining : List JobRow}

theorem NoEntries.undisturbed (none : NoEntries before worker)
    (same : Undisturbed hash worker before after) :
    NoEntries after worker := by
  intro entry member owner
  exact none entry ((same.entries entry owner).mp member) owner

theorem Batch.undisturbed (batch : Batch before worker tx remaining)
    (same : Undisturbed hash worker before after) :
    Batch after worker tx remaining where
  locked := fun candidate member =>
    (same.rows candidate.id candidate (batch.locked candidate member)
      (batch.found.found candidate member)).1
  found :=
    { found := fun candidate member =>
        (same.rows candidate.id candidate (batch.locked candidate member)
          (batch.found.found candidate member)).2
      active := batch.found.active
      nodup := batch.found.nodup }
  entered := by
    intro candidate member serializationKey key remaining
    exact (same.entries _ rfl).mpr
      (batch.entered candidate member serializationKey key remaining)
  takenKeys := batch.takenKeys
  entryKeys := fun entry member owner =>
    batch.entryKeys entry ((same.entries entry owner).mp member) owner

theorem Reserved.undisturbed {serializationKey : String}
    (reserved : Reserved before worker tx serializationKey)
    (same : Undisturbed hash worker before after) :
    Reserved after worker tx serializationKey :=
  ⟨reserved.listed, reserved.taken, fun entry member owner =>
    reserved.entries entry ((same.entries entry owner).mp member) owner⟩

/-- A worker keeps its assertion through changes it does not notice. -/
theorem WorkerHolds.undisturbed {task : Option ClaimTx}
    (holds : WorkerHolds hash before worker task)
    (same : Undisturbed hash worker before after) :
    WorkerHolds hash after worker task := by
  cases task with
  | none => exact NoEntries.undisturbed holds same
  | some tx =>
      simp only [WorkerHolds] at holds ⊢
      cases phase : tx.phase with
      | selecting remaining =>
          rw [phase] at holds
          exact ⟨holds.1, holds.2.1.undisturbed same, holds.2.2⟩
      | looping remaining =>
          rw [phase] at holds
          exact Batch.undisturbed holds same
      | keyLocking serializationKey candidate remaining =>
          rw [phase] at holds
          exact ⟨holds.1, holds.2.1.undisturbed same,
            holds.2.2.undisturbed same⟩
      | rechecking serializationKey candidate remaining =>
          rw [phase] at holds
          exact ⟨holds.1, holds.2.1.undisturbed same,
            holds.2.2.1.undisturbed same, same.advisory _ holds.2.2.2⟩
      | writing candidate remaining =>
          rw [phase] at holds
          refine ⟨holds.1.undisturbed same, ?_⟩
          intro serializationKey key
          obtain ⟨reserved, advisory, alone⟩ := holds.2 serializationKey key
          exact ⟨reserved.undisturbed same, same.advisory _ advisory,
            fun job leased =>
              alone job (same.leases job serializationKey advisory leased)⟩
      | published =>
          rw [phase] at holds
          exact NoEntries.undisturbed holds same
      | failed error =>
          rw [phase] at holds
          exact ⟨NoEntries.undisturbed holds.1 same, holds.2⟩

end Stability

section Worlds

variable {hash : String → Int} {worker other : Nat}
variable {first middle last world : ClaimWorld}

theorem Undisturbed.refl (hash : String → Int) (worker : Nat)
    (world : ClaimWorld) : Undisturbed hash worker world world :=
  ⟨fun _ _ held found => ⟨held, found⟩, fun _ held => held,
    fun _ _ => Iff.rfl, fun _ _ _ leased => leased⟩

theorem Undisturbed.trans (before : Undisturbed hash worker first middle)
    (after : Undisturbed hash worker middle last) :
    Undisturbed hash worker first last where
  rows := by
    intro job row held found
    obtain ⟨heldMiddle, foundMiddle⟩ := before.rows job row held found
    exact after.rows job row heldMiddle foundMiddle
  advisory := fun number held =>
    after.advisory number (before.advisory number held)
  entries := fun entry owner =>
    (after.entries entry owner).trans (before.entries entry owner)
  leases := fun job serializationKey held leased =>
    before.leases job serializationKey held
      (after.leases job serializationKey (before.advisory _ held) leased)

theorem releaseLocks_of_other {Key : Type} {locks : Key → Option Nat}
    {key : Key} (different : other ≠ worker)
    (held : locks key = some other) :
    ClaimWorld.releaseLocks worker locks key = some other := by
  simp [ClaimWorld.releaseLocks, held, different]

theorem publish_noEntries (db : WorkDb) :
    NoEntries (world.publish worker db) worker := by
  intro entry member
  simpa using (List.mem_filter.mp member).2

/-- Publishing is sound when every new lease has an index entry. -/
theorem publish_exclusive {db : WorkDb} (exclusive : Exclusive hash world)
    (leases : ∀ job serializationKey, db.Leased job serializationKey →
      world.db.Leased job serializationKey ∨
        ⟨worker, job, serializationKey⟩ ∈ world.leaseEntries) :
    Exclusive hash (world.publish worker db) where
  committed := by
    intro firstJob secondJob serializationKey firstLeased secondLeased
    rcases leases _ _ firstLeased with old | entered <;>
      rcases leases _ _ secondLeased with otherOld | otherEntered
    · exact exclusive.committed _ _ _ old otherOld
    · exact exclusive.noOther _ otherEntered _ old
    · exact (exclusive.noOther _ entered _ otherOld).symm
    · exact exclusive.oneEntry _ entered _ otherEntered rfl
  advisory := fun entry member =>
    exclusive.advisory entry (List.mem_of_mem_filter member)
  noOther := by
    intro entry member job leased
    obtain ⟨entryMem, foreign⟩ := List.mem_filter.mp member
    rcases leases _ _ leased with old | entered
    · exact exclusive.noOther entry entryMem job old
    · have holder := exclusive.advisory entry entryMem
      rw [exclusive.advisory _ entered, Option.some.injEq] at holder
      exact absurd holder.symm (by simpa using foreign)
  oneEntry := fun entry member otherEntry otherMember =>
    exclusive.oneEntry entry (List.mem_of_mem_filter member) otherEntry
      (List.mem_of_mem_filter otherMember)

theorem publish_undisturbed {db : WorkDb} (exclusive : Exclusive hash world)
    (leases : ∀ job serializationKey, db.Leased job serializationKey →
      world.db.Leased job serializationKey ∨
        ⟨worker, job, serializationKey⟩ ∈ world.leaseEntries)
    (rows : ∀ job, world.rowLocks job ≠ some worker →
      db.jobs.find job = world.db.jobs.find job)
    (different : other ≠ worker) :
    Undisturbed hash other world (world.publish worker db) where
  rows := by
    intro job row held found
    refine ⟨releaseLocks_of_other different held, ?_⟩
    rw [← found]
    exact rows job (by simp [held, different])
  advisory := fun _ held => held
  entries := by
    intro entry owner
    simp [ClaimWorld.publish, List.mem_filter, owner, different]
  leases := by
    intro job serializationKey held leased
    rcases leases _ _ leased with old | entered
    · exact old
    · have holder := exclusive.advisory _ entered
      rw [held, Option.some.injEq] at holder
      exact absurd holder different

theorem releaseAdvisory_exclusive (exclusive : Exclusive hash world)
    (none : NoEntries world worker) :
    Exclusive hash (world.releaseAdvisory worker) where
  committed := exclusive.committed
  advisory := fun entry member =>
    releaseLocks_of_other (none entry member)
      (exclusive.advisory entry member)
  noOther := exclusive.noOther
  oneEntry := exclusive.oneEntry

theorem releaseAdvisory_undisturbed (different : other ≠ worker) :
    Undisturbed hash other world (world.releaseAdvisory worker) where
  rows := fun _ _ held found => ⟨held, found⟩
  advisory := fun _ held => releaseLocks_of_other different held
  entries := fun _ _ => Iff.rfl
  leases := fun _ _ _ leased => leased

theorem rollback_exclusive (exclusive : Exclusive hash world) :
    Exclusive hash (world.rollback worker) :=
  releaseAdvisory_exclusive
    (publish_exclusive exclusive fun _ _ leased => Or.inl leased)
    (publish_noEntries world.db)

theorem rollback_undisturbed (exclusive : Exclusive hash world)
    (different : other ≠ worker) :
    Undisturbed hash other world (world.rollback worker) :=
  (publish_undisturbed exclusive (fun _ _ leased => Or.inl leased)
    (fun _ _ => rfl) different).trans (releaseAdvisory_undisturbed different)

end Worlds

/-- What an action of a worker has to establish. -/
structure Sound (hash : String → Int) (worker : Nat)
    (before after : ClaimWorld) (task : Option ClaimTx) : Prop where
  exclusive : Exclusive hash after
  own : WorkerHolds hash after worker task
  others : ∀ other, other ≠ worker → Undisturbed hash other before after

section Actions

variable {hash : String → Int} {worker : Nat} {world after : ClaimWorld}
variable {tx : ClaimTx} {task : Option ClaimTx}

/-- An action that leaves the world alone. -/
theorem Sound.of_unchanged (exclusive : Exclusive hash world)
    (own : WorkerHolds hash world worker task) :
    Sound hash worker world world task :=
  ⟨exclusive, own, fun other _ => Undisturbed.refl hash other world⟩

theorem Sound.of_rollback (exclusive : Exclusive hash world)
    (own : WorkerHolds hash (world.rollback worker) worker task) :
    Sound hash worker world (world.rollback worker) task :=
  ⟨rollback_exclusive exclusive, own,
    fun _ different => rollback_undisturbed exclusive different⟩

theorem start_holds (now : Timestamp) (options : ClaimOptions)
    (environment : WorkStore.ClaimEnvironment)
    (none : NoEntries world worker) :
    WorkerHolds hash world worker
      (some (ClaimTx.start now options environment world.db)) := by
  refine ⟨rfl, ⟨by simp [ClaimTx.start], ⟨by simp [ClaimTx.start],
    by simp [ClaimTx.start], by simp [ClaimTx.start]⟩,
    by simp [ClaimTx.start], by simp [ClaimTx.start], ?_⟩, ?_⟩
  · exact fun entry member owner => absurd owner (none entry member)
  · simp only [ClaimTx.start, List.nil_append, ClaimTx.candidateOrder]
    rw [((List.perm_insertionSort WorkStore.claimOrder _).map
      JobRow.id).nodup_iff]
    exact world.db.jobs.keysNodup.sublist
      (List.filter_sublist.map JobRow.id)

/-- Passing over a row of the candidate selection. -/
theorem selecting_tail {visited : JobRow} {remaining : List JobRow}
    (holds : PhaseHolds hash world worker tx
      (.selecting (visited :: remaining))) :
    WorkerHolds hash world worker
      (some { tx with phase := .selecting remaining }) := by
  obtain ⟨noneTaken, batch, nodup⟩ := holds
  refine ⟨noneTaken, ⟨batch.locked, batch.found, batch.entered,
    batch.takenKeys, batch.entryKeys⟩, ?_⟩
  refine nodup.sublist (List.Sublist.map JobRow.id ?_)
  exact List.Sublist.append_left (List.sublist_cons_self _ _) _

/-- Keeping a row of the candidate selection. -/
theorem selecting_lock {visited row : JobRow} {remaining : List JobRow}
    (holds : PhaseHolds hash world worker tx
      (.selecting (visited :: remaining)))
    (rowFound : world.db.jobs.find visited.id = some row)
    (active : row.isClaimable tx.now = true) :
    WorkerHolds hash
      { world with
        rowLocks := Function.update world.rowLocks visited.id (some worker) }
      worker
      (some
        { tx with
          locked := tx.locked ++ [row]
          phase := .selecting remaining }) := by
  obtain ⟨noneTaken, batch, nodup⟩ := holds
  have sameId : row.id = visited.id := Table.key_of_find rowFound
  have nodupAll :
      ((tx.locked ++ [row] ++ remaining).map JobRow.id).Nodup := by
    simpa [sameId] using nodup
  have nodupLocked : ((tx.locked ++ [row]).map JobRow.id).Nodup :=
    nodupAll.sublist ((List.sublist_append_left _ _).map JobRow.id)
  refine ⟨noneTaken, ⟨?_, ⟨?_, ?_, ?_⟩, ?_, batch.takenKeys,
    batch.entryKeys⟩, nodupAll⟩
  · intro candidate member
    simp only [noneTaken, List.nil_append, List.mem_append,
      List.mem_singleton] at member
    rcases member with old | rfl
    · have held := batch.locked candidate (by simp [old])
      by_cases same : candidate.id = visited.id
      · simp [same]
      · simpa [Function.update_of_ne same] using held
    · simp [sameId]
  · intro candidate member
    simp only [noneTaken, List.nil_append, List.mem_append,
      List.mem_singleton] at member
    rcases member with old | rfl
    · exact batch.found.found candidate (by simp [old])
    · rwa [sameId]
  · intro candidate member
    simp only [noneTaken, List.nil_append, List.mem_append,
      List.mem_singleton] at member
    rcases member with old | rfl
    · exact batch.found.active candidate (by simp [old])
    · exact active
  · simpa [noneTaken] using nodupLocked
  · simp [noneTaken]

/-- Visiting a row of the candidate selection. -/
theorem lockRow_sound (exclusive : Exclusive hash world)
    (holds : WorkerHolds hash world worker (some tx))
    (acted : lockRow world worker tx = some (after, task)) :
    Sound hash worker world after task := by
  unfold lockRow at acted
  split at acted
  · rename_i visited remaining phase
    simp only [WorkerHolds, phase] at holds
    split at acted
    · rename_i enabled
      split at acted
      · rename_i row rowFound
        split at acted
        · rename_i qualifies
          simp only [Option.some.injEq, Prod.mk.injEq] at acted
          obtain ⟨rfl, rfl⟩ := acted
          simp only [WorkStore.isCandidate, Bool.and_eq_true] at qualifies
          refine ⟨⟨exclusive.committed, exclusive.advisory,
            exclusive.noOther, exclusive.oneEntry⟩,
            selecting_lock holds rowFound qualifies.1, ?_⟩
          intro other different
          refine ⟨fun job _ held found => ?_, fun _ held => held,
            fun _ _ => Iff.rfl, fun _ _ _ leased => leased⟩
          have otherRow : job ≠ visited.id := by
            rintro rfl
            rw [enabled.2] at held
            contradiction
          exact ⟨by simpa [Function.update_of_ne otherRow] using held,
            found⟩
        · simp only [Option.some.injEq, Prod.mk.injEq] at acted
          obtain ⟨rfl, rfl⟩ := acted
          exact .of_unchanged exclusive (selecting_tail holds)
      · contradiction
    · contradiction
  · contradiction

theorem skipRow_sound (exclusive : Exclusive hash world)
    (holds : WorkerHolds hash world worker (some tx))
    (acted : skipRow world tx = some (after, task)) :
    Sound hash worker world after task := by
  unfold skipRow at acted
  split at acted
  · rename_i visited remaining phase
    simp only [WorkerHolds, phase] at holds
    simp only [Option.some.injEq, Prod.mk.injEq] at acted
    obtain ⟨rfl, rfl⟩ := acted
    exact .of_unchanged exclusive (selecting_tail holds)
  · contradiction

theorem Batch.found_taken {remaining : List JobRow}
    (batch : Batch world worker tx remaining) :
    ClaimTx.Found tx.now tx.taken world.db where
  found := fun candidate member =>
    batch.found.found candidate (List.mem_append_left _ member)
  active := fun candidate member =>
    batch.found.active candidate (List.mem_append_left _ member)
  nodup := batch.found.nodup.sublist
    ((List.sublist_append_left _ _).map JobRow.id)

/-- Every lease in the view is committed or has an index entry. -/
theorem Batch.view_leased {remaining : List JobRow}
    (batch : Batch world worker tx remaining) {job : Uuid}
    {serializationKey : String}
    (leased : (tx.view world.db).Leased job serializationKey) :
    world.db.Leased job serializationKey ∨
      ⟨worker, job, serializationKey⟩ ∈ world.leaseEntries := by
  rcases ClaimTx.view_leased batch.found_taken leased with
    old | ⟨candidate, member, rfl, key, remaining⟩
  · exact Or.inl old
  · exact Or.inr
      (batch.entered candidate member serializationKey key remaining)

/-- Dropping the next candidate. -/
theorem Batch.tail {candidate : JobRow} {remaining : List JobRow}
    (batch : Batch world worker tx (candidate :: remaining)) :
    Batch world worker tx remaining := by
  have sublist : (tx.taken ++ remaining).Sublist
      (tx.taken ++ candidate :: remaining) :=
    List.Sublist.append_left (List.sublist_cons_self _ _) _
  exact ⟨fun other member => batch.locked other (sublist.subset member),
    ⟨fun other member => batch.found.found other (sublist.subset member),
      fun other member => batch.found.active other (sublist.subset member),
      batch.found.nodup.sublist (sublist.map JobRow.id)⟩,
    batch.entered, batch.takenKeys, batch.entryKeys⟩

/-- The commit. -/
theorem publish_sound (exclusive : Exclusive hash world)
    (batch : Batch world worker tx []) :
    Sound hash worker world (world.publish worker (tx.view world.db))
      (some { tx with phase := .published }) := by
  have leases : ∀ job serializationKey,
      (tx.view world.db).Leased job serializationKey →
        world.db.Leased job serializationKey ∨
          ⟨worker, job, serializationKey⟩ ∈ world.leaseEntries :=
    fun _ _ => batch.view_leased
  refine ⟨publish_exclusive exclusive leases,
    publish_noEntries (tx.view world.db), ?_⟩
  intro other different
  refine publish_undisturbed exclusive leases ?_ different
  intro job unlocked
  refine ClaimTx.foldl_replay_find_other batch.found_taken ?_
  intro inside
  obtain ⟨candidate, member, rfl⟩ := List.mem_map.mp inside
  exact unlocked (batch.locked candidate (by simp [member]))

/-- Going on to the next candidate: the key set of the batch. -/
theorem looping_sound {candidate : JobRow} {remaining : List JobRow}
    (exclusive : Exclusive hash world)
    (batch : Batch world worker tx (candidate :: remaining))
    (phase : tx.phase = .looping (candidate :: remaining))
    (acted : advance hash world worker tx = some (after, task)) :
    Sound hash worker world after task := by
  simp only [advance, phase] at acted
  split at acted
  · rename_i keyless
    simp only [Option.some.injEq, Prod.mk.injEq] at acted
    obtain ⟨rfl, rfl⟩ := acted
    refine .of_unchanged exclusive ⟨⟨batch.locked, batch.found,
      batch.entered, batch.takenKeys, batch.entryKeys⟩, ?_⟩
    intro serializationKey key
    rw [keyless] at key
    contradiction
  · rename_i serializationKey key
    split at acted
    · simp only [Option.some.injEq, Prod.mk.injEq] at acted
      obtain ⟨rfl, rfl⟩ := acted
      have rest := batch.tail
      exact .of_unchanged exclusive ⟨rest.locked, rest.found, rest.entered,
        rest.takenKeys, rest.entryKeys⟩
    · rename_i newKey
      simp only [Option.some.injEq, Prod.mk.injEq] at acted
      obtain ⟨rfl, rfl⟩ := acted
      refine .of_unchanged exclusive ⟨key, ⟨batch.locked, batch.found,
        batch.entered, ?_, ?_⟩, List.mem_cons_self, ?_, ?_⟩
      · intro other member otherKey keyEq
        exact List.mem_cons_of_mem _
          (batch.takenKeys other member otherKey keyEq)
      · intro entry member owner
        exact List.mem_cons_of_mem _ (batch.entryKeys entry member owner)
      · intro other member same
        exact newKey (batch.takenKeys other member serializationKey same)
      · rintro entry member owner rfl
        exact newKey (batch.entryKeys entry member owner)

/-- Trying the advisory lock of the key. -/
theorem keyLocking_sound {serializationKey : String} {candidate : JobRow}
    {remaining : List JobRow} (exclusive : Exclusive hash world)
    (phase : tx.phase = .keyLocking serializationKey candidate remaining)
    (holds : PhaseHolds hash world worker tx
      (.keyLocking serializationKey candidate remaining))
    (acted : advance hash world worker tx = some (after, task)) :
    Sound hash worker world after task := by
  obtain ⟨key, batch, reserved⟩ := holds
  simp only [advance, phase] at acted
  split at acted
  · rename_i free
    simp only [Option.some.injEq, Prod.mk.injEq] at acted
    obtain ⟨rfl, rfl⟩ := acted
    have keepsOther {number : Int} {other : Nat} (different : other ≠ worker)
        (held : world.advisoryLocks number = some other) :
        Function.update world.advisoryLocks (hash serializationKey)
          (some worker) number = some other := by
      have otherNumber : number ≠ hash serializationKey := by
        rintro rfl
        rcases free with unlocked | own
        · rw [unlocked] at held
          contradiction
        · rw [own, Option.some.injEq] at held
          exact different held.symm
      rwa [Function.update_of_ne otherNumber]
    refine ⟨⟨exclusive.committed, ?_, exclusive.noOther,
      exclusive.oneEntry⟩, ?_, ?_⟩
    · intro entry member
      have held := exclusive.advisory entry member
      by_cases own : entry.worker = worker
      · by_cases same : hash entry.serializationKey = hash serializationKey
        · simp [same, own]
        · simpa [Function.update_of_ne same] using held
      · exact keepsOther own held
    · exact ⟨key, ⟨batch.locked, batch.found, batch.entered, batch.takenKeys,
        batch.entryKeys⟩, ⟨reserved.listed, reserved.taken,
        reserved.entries⟩, by simp⟩
    · intro other different
      exact ⟨fun _ _ held found => ⟨held, found⟩, fun _ held =>
        keepsOther different held, fun _ _ => Iff.rfl,
        fun _ _ _ leased => leased⟩
  · simp only [Option.some.injEq, Prod.mk.injEq] at acted
    obtain ⟨rfl, rfl⟩ := acted
    have rest := batch.tail
    exact .of_unchanged exclusive ⟨rest.locked, rest.found, rest.entered,
      rest.takenKeys, rest.entryKeys⟩

/-- The recheck under the advisory lock. -/
theorem rechecking_sound {serializationKey : String} {candidate : JobRow}
    {remaining : List JobRow} (exclusive : Exclusive hash world)
    (phase : tx.phase = .rechecking serializationKey candidate remaining)
    (holds : PhaseHolds hash world worker tx
      (.rechecking serializationKey candidate remaining))
    (acted : advance hash world worker tx = some (after, task)) :
    Sound hash worker world after task := by
  obtain ⟨key, batch, reserved, advisory⟩ := holds
  simp only [advance, phase] at acted
  split at acted
  · simp only [Option.some.injEq, Prod.mk.injEq] at acted
    obtain ⟨rfl, rfl⟩ := acted
    have rest := batch.tail
    exact .of_unchanged exclusive ⟨rest.locked, rest.found, rest.entered,
      rest.takenKeys, rest.entryKeys⟩
  · rename_i free
    simp only [Option.some.injEq, Prod.mk.injEq] at acted
    obtain ⟨rfl, rfl⟩ := acted
    refine .of_unchanged exclusive ⟨⟨batch.locked, batch.found,
      batch.entered, batch.takenKeys, batch.entryKeys⟩, ?_⟩
    intro otherKey sameKey
    rw [key, Option.some.injEq] at sameKey
    subst sameKey
    refine ⟨⟨reserved.listed, reserved.taken,
        reserved.entries⟩, advisory, ?_⟩
    intro job leased
    by_contra different
    refine free (JobRow.leasedElsewhere_iff.mpr
      ⟨serializationKey, key, job, different, ?_⟩)
    refine ClaimTx.leased_view batch.found_taken ?_ leased
    intro inside
    obtain ⟨other, member, rfl⟩ := List.mem_map.mp inside
    obtain ⟨row, rowFound, _, rowKey⟩ := leased
    rw [batch.found_taken.found other member, Option.some.injEq] at rowFound
    exact reserved.taken other member (rowFound ▸ rowKey)

/-- A candidate that passed every check meets no index entry. -/
theorem writing_no_conflict {candidate : JobRow} {remaining : List JobRow}
    (exclusive : Exclusive hash world)
    (holds : PhaseHolds hash world worker tx (.writing candidate remaining)) :
    world.indexConflict (tx.view world.db) candidate = false := by
  obtain ⟨batch, checked⟩ := holds
  rw [ClaimWorld.indexConflict, Bool.or_eq_false_iff]
  constructor
  · by_contra conflict
    rw [Bool.not_eq_false, JobRow.leasedElsewhere_iff] at conflict
    obtain ⟨serializationKey, key, job, different, leased⟩ := conflict
    obtain ⟨reserved, _, alone⟩ := checked serializationKey key
    rcases batch.view_leased leased with old | entered
    · exact different (alone job old)
    · exact reserved.entries _ entered rfl rfl
  · by_contra conflict
    simp only [Bool.not_eq_false, Option.any_eq_true, List.any_eq_true,
      Bool.and_eq_true, decide_eq_true_eq] at conflict
    obtain ⟨serializationKey, key, entry, member, sameKey, _⟩ := conflict
    obtain ⟨reserved, advisory, _⟩ := checked serializationKey key
    have holder := exclusive.advisory entry member
    rw [sameKey, advisory, Option.some.injEq] at holder
    exact reserved.entries entry member holder.symm sameKey

theorem mem_addEntry {candidate : JobRow} {claimed : Option ClaimedJob}
    {entry : LeaseEntry} :
    entry ∈ (world.addEntry worker candidate claimed).leaseEntries ↔
      entry ∈ world.leaseEntries ∨
        (claimed.isSome ∧ entry.worker = worker ∧ entry.job = candidate.id ∧
          candidate.serializationKey = some entry.serializationKey) := by
  obtain ⟨owner, job, entryKey⟩ := entry
  unfold ClaimWorld.addEntry
  split
  · rename_i serializationKey _ key
    rw [key]
    simp only [List.mem_cons, LeaseEntry.mk.injEq, Option.isSome_some,
      true_and, Option.some.injEq]
    constructor
    · rintro (⟨rfl, rfl, rfl⟩ | old)
      · exact Or.inr ⟨rfl, rfl, rfl⟩
      · exact Or.inl old
    · rintro (old | ⟨rfl, rfl, rfl⟩)
      · exact Or.inr old
      · exact Or.inl ⟨rfl, rfl, rfl⟩
  · rename_i noLease
    constructor
    · exact Or.inl
    · rintro (old | ⟨leased, _, _, key⟩)
      · exact old
      · obtain ⟨job, rfl⟩ := Option.isSome_iff_exists.mp leased
        exact absurd rfl (noLease _ _ key)

@[simp]
theorem addEntry_db (candidate : JobRow) (claimed : Option ClaimedJob) :
    (world.addEntry worker candidate claimed).db = world.db := by
  unfold ClaimWorld.addEntry
  split <;> rfl

@[simp]
theorem addEntry_rowLocks (candidate : JobRow)
    (claimed : Option ClaimedJob) :
    (world.addEntry worker candidate claimed).rowLocks = world.rowLocks := by
  unfold ClaimWorld.addEntry
  split <;> rfl

@[simp]
theorem addEntry_advisoryLocks (candidate : JobRow)
    (claimed : Option ClaimedJob) :
    (world.addEntry worker candidate claimed).advisoryLocks =
      world.advisoryLocks := by
  unfold ClaimWorld.addEntry
  split <;> rfl

/-- The batch after a candidate has been handled. -/
theorem Batch.take {candidate : JobRow} {remaining : List JobRow}
    {claimed : Option ClaimedJob}
    (batch : Batch world worker tx (candidate :: remaining))
    (listed : ∀ serializationKey,
      candidate.serializationKey = some serializationKey →
        serializationKey ∈ tx.keys)
    (exhausted : claimed = none → candidate.isExhausted = true) :
    Batch (world.addEntry worker candidate claimed) worker
      { tx with
        taken := tx.taken ++ [candidate]
        claimed := tx.claimed ++ claimed.toList
        phase := .looping remaining } remaining where
  locked := by
    simpa using batch.locked
  found := by
    simpa using batch.found
  entered := by
    intro other member serializationKey key notExhausted
    rw [mem_addEntry]
    rcases List.mem_append.mp member with old | new
    · exact Or.inl (batch.entered other old serializationKey key notExhausted)
    · obtain rfl := List.mem_singleton.mp new
      refine Or.inr ⟨?_, rfl, rfl, key⟩
      cases claimed with
      | none => simp [exhausted rfl] at notExhausted
      | some job => rfl
  takenKeys := by
    intro other member serializationKey key
    rcases List.mem_append.mp member with old | new
    · exact batch.takenKeys other old serializationKey key
    · obtain rfl := List.mem_singleton.mp new
      exact listed serializationKey key
  entryKeys := by
    intro entry member owner
    rcases mem_addEntry.mp member with old | ⟨_, _, _, key⟩
    · exact batch.entryKeys entry old owner
    · exact listed entry.serializationKey key

/-- The writes of a candidate. -/
theorem write_sound {candidate : JobRow} {remaining : List JobRow}
    (exclusive : Exclusive hash world)
    (holds : PhaseHolds hash world worker tx (.writing candidate remaining)) :
    Sound hash worker world (write world worker tx candidate remaining).1
      (write world worker tx candidate remaining).2 := by
  have noConflict := writing_no_conflict exclusive holds
  obtain ⟨batch, checked⟩ := holds
  have foundView :
      (tx.view world.db).jobs.find candidate.id = some candidate := by
    have outside : candidate.id ∉ tx.taken.map JobRow.id := by
      have nodup := batch.found.nodup
      rw [List.map_append, List.map_cons, List.nodup_append] at nodup
      intro inside
      exact nodup.2.2 _ inside _ (by simp) rfl
    rw [ClaimTx.view,
      ClaimTx.foldl_replay_find_other batch.found_taken outside]
    exact batch.found.found candidate (by simp)
  have active := batch.found.active candidate (by simp)
  simp only [write, noConflict, Bool.false_eq_true, if_false]
  cases outcome : WorkStore.takeCandidate tx.now tx.options tx.environment
      candidate (tx.view world.db) with
  | error error =>
      refine .of_rollback exclusive ⟨publish_noEntries world.db, ?_⟩
      rw [ClaimWorld.indexConflict, Bool.or_eq_false_iff] at noConflict
      rw [WorkStore.takeCandidate_error noConflict.1 outcome]
      decide
  | ok pair =>
      obtain ⟨claimed, db⟩ := pair
      obtain ⟨_, _, _, _, exhausted⟩ :=
        WorkStore.takeCandidate_row foundView active outcome
      refine ⟨⟨by simpa using exclusive.committed, ?_, ?_, ?_⟩, ?_, ?_⟩
      · intro entry member
        rcases mem_addEntry.mp member with old | ⟨_, owner, _, key⟩
        · simpa using exclusive.advisory entry old
        · simpa [owner] using (checked _ key).2.1
      · intro entry member job leased
        rw [addEntry_db] at leased
        rcases mem_addEntry.mp member with old | ⟨_, _, sameJob, key⟩
        · exact exclusive.noOther entry old job leased
        · rw [sameJob]
          exact (checked _ key).2.2 job leased
      · have onlyNew {entry : LeaseEntry} {serializationKey : String}
            (key : candidate.serializationKey = some serializationKey)
            (old : entry ∈ world.leaseEntries) :
            entry.serializationKey ≠ serializationKey := by
          intro same
          have holder := exclusive.advisory entry old
          rw [same, (checked _ key).2.1, Option.some.injEq] at holder
          exact (checked _ key).1.entries entry old holder.symm same
        intro first firstMem second secondMem sameKey
        rcases mem_addEntry.mp firstMem with old | ⟨_, _, firstJob, key⟩ <;>
          rcases mem_addEntry.mp secondMem with
            otherOld | ⟨_, _, secondJob, otherKey⟩
        · exact exclusive.oneEntry first old second otherOld sameKey
        · exact absurd sameKey (onlyNew otherKey old)
        · exact absurd sameKey.symm (onlyNew key otherOld)
        · rw [firstJob, secondJob]
      · exact batch.take (fun serializationKey key =>
          (checked serializationKey key).1.listed) exhausted
      · intro other different
        refine ⟨fun _ _ held found => by simp [held, found], by simp, ?_,
          by simp⟩
        intro entry owner
        rw [mem_addEntry]
        constructor
        · rintro (old | ⟨_, same, _⟩)
          · exact old
          · exact absurd (owner.symm.trans same) different
        · exact Or.inl

/-- Every statement of a transaction is sound. -/
theorem advance_sound (exclusive : Exclusive hash world)
    (holds : WorkerHolds hash world worker (some tx))
    (acted : advance hash world worker tx = some (after, task)) :
    Sound hash worker world after task := by
  simp only [WorkerHolds] at holds
  cases phase : tx.phase with
  | selecting remaining =>
      rw [phase] at holds
      obtain ⟨noneTaken, batch, _⟩ := holds
      simp only [advance, phase] at acted
      split at acted
      · simp only [Option.some.injEq, Prod.mk.injEq] at acted
        obtain ⟨rfl, rfl⟩ := acted
        exact .of_unchanged exclusive ⟨batch.locked, batch.found,
          batch.entered, batch.takenKeys, batch.entryKeys⟩
      · contradiction
  | looping remaining =>
      rw [phase] at holds
      cases remaining with
      | nil =>
          simp only [advance, phase, Option.some.injEq,
            Prod.mk.injEq] at acted
          obtain ⟨rfl, rfl⟩ := acted
          exact publish_sound exclusive holds
      | cons candidate remaining =>
          exact looping_sound exclusive holds phase acted
  | keyLocking serializationKey candidate remaining =>
      rw [phase] at holds
      exact keyLocking_sound exclusive phase holds acted
  | rechecking serializationKey candidate remaining =>
      rw [phase] at holds
      exact rechecking_sound exclusive phase holds acted
  | writing candidate remaining =>
      rw [phase] at holds
      simp only [advance, phase, Option.some.injEq] at acted
      have sound := write_sound exclusive holds
      rwa [acted] at sound
  | published =>
      rw [phase] at holds
      simp only [advance, phase, Option.some.injEq, Prod.mk.injEq] at acted
      obtain ⟨rfl, rfl⟩ := acted
      exact ⟨releaseAdvisory_exclusive exclusive holds, holds,
        fun _ different => releaseAdvisory_undisturbed different⟩
  | failed error =>
      rw [phase] at holds
      simp only [advance, phase, Option.some.injEq, Prod.mk.injEq] at acted
      obtain ⟨rfl, rfl⟩ := acted
      exact .of_unchanged exclusive holds.1

/-- Other calls wait for locked rows and start no lease. -/
theorem call_undisturbed {now : Timestamp} {call : WorkCall} (reader : Nat)
    (notClaim : call.isClaim = false)
    (waits : (world.db.jobs.rows.all fun row =>
      !(call.touches row && isLocked world row)) = true) :
    Undisturbed hash reader world
      { world with db := (call.exec now world.db).2 } where
  rows := by
    intro job row held found
    refine ⟨held, WorkCall.exec_find_untouched notClaim found ?_⟩
    have free := List.all_eq_true.mp waits row (Table.mem_of_find found)
    have lockedRow : isLocked world row = true := by
      simp [isLocked, Table.key_of_find found, held]
    simpa [lockedRow] using free
  advisory := fun _ held => held
  entries := fun _ _ => Iff.rfl
  leases := fun _ _ _ leased => WorkCall.exec_leased notClaim leased

/-- Every action of a worker is sound. -/
theorem act_sound {action : ClaimAction} {before : Option ClaimTx}
    (exclusive : Exclusive hash world)
    (holds : WorkerHolds hash world worker before)
    (acted : act hash world worker before action = some (after, task)) :
    Sound hash worker world after task := by
  unfold act at acted
  split at acted
  · split at acted
    · simp only [Option.some.injEq, Prod.mk.injEq] at acted
      obtain ⟨rfl, rfl⟩ := acted
      exact .of_unchanged exclusive (start_holds _ _ _ holds)
    · contradiction
  · exact lockRow_sound exclusive holds acted
  · exact skipRow_sound exclusive holds acted
  · exact advance_sound exclusive holds acted
  · rename_i tx
    split at acted
    · rename_i phase
      simp only [WorkerHolds, phase] at holds
      simp only [Option.some.injEq, Prod.mk.injEq] at acted
      obtain ⟨rfl, rfl⟩ := acted
      exact ⟨releaseAdvisory_exclusive exclusive holds, holds,
        fun _ different => releaseAdvisory_undisturbed different⟩
    · simp only [Option.some.injEq, Prod.mk.injEq] at acted
      obtain ⟨rfl, rfl⟩ := acted
      exact .of_rollback exclusive (publish_noEntries world.db)
  · split at acted
    · rename_i enabled
      simp only [Option.some.injEq, Prod.mk.injEq] at acted
      obtain ⟨rfl, rfl⟩ := acted
      refine ⟨⟨?_, exclusive.advisory, ?_, exclusive.oneEntry⟩,
        holds.undisturbed (call_undisturbed worker enabled.1 enabled.2),
        fun other _ => call_undisturbed other enabled.1 enabled.2⟩
      · intro first second serializationKey firstLeased secondLeased
        exact exclusive.committed first second serializationKey
          (WorkCall.exec_leased enabled.1 firstLeased)
          (WorkCall.exec_leased enabled.1 secondLeased)
      · intro entry member job leased
        exact exclusive.noOther entry member job
          (WorkCall.exec_leased enabled.1 leased)
    · contradiction
  · contradiction

end Actions

/-- The invariant holds in every reachable pool. -/
theorem ClaimReaches.holds {hash : String → Int}
    {pool : Pool ClaimWorld ClaimTx}
    (reached : ClaimReaches hash (Pool.idle ClaimWorld.initial) pool) :
    Holds (Exclusive hash) (WorkerHolds hash) pool := by
  refine Holds.reaches ?_ reached ⟨?_, ?_⟩
  · intro pool worker action world task holds _ acted
    have sound := act_sound holds.shared (holds.own worker) acted
    exact ⟨sound.exclusive, sound.own, fun other different =>
      (holds.own other).undisturbed (sound.others other different)⟩
  · refine ⟨?_, by simp [Pool.idle, ClaimWorld.initial],
      by simp [Pool.idle, ClaimWorld.initial],
      by simp [Pool.idle, ClaimWorld.initial]⟩
    rintro first second serializationKey ⟨row, found, _⟩
    simp [Pool.idle, ClaimWorld.initial, WorkDb.empty] at found
  · intro worker entry member
    simp [Pool.idle, ClaimWorld.initial] at member

/-- Serialization exclusivity: in every committed state at most one job per
serialization key is leased, and no claim transaction fails on the unique
index over leased serialization keys. -/
theorem serialization_exclusivity (hash : String → Int)
    {pool : Pool ClaimWorld ClaimTx}
    (reached : ClaimReaches hash (Pool.idle ClaimWorld.initial) pool) :
    (∀ first ∈ pool.world.db.jobs, ∀ second ∈ pool.world.db.jobs,
      first.state = .leased → second.state = .leased →
      first.serializationKey ≠ none →
      first.serializationKey = second.serializationKey →
        first = second) ∧
    (∀ worker tx, pool.tasks worker = some tx →
      tx.phase ≠ .failed (.dependency "claim update failed")) := by
  have holds := reached.holds
  constructor
  · intro first firstMem second secondMem firstLeased secondLeased keyed same
    obtain ⟨serializationKey, key⟩ := Option.ne_none_iff_exists'.mp keyed
    refine Table.eq_of_key_eq firstMem secondMem
      (holds.shared.committed first.id second.id serializationKey ?_ ?_)
    · exact ⟨first, Table.find_of_mem firstMem, firstLeased, key⟩
    · exact ⟨second, Table.find_of_mem secondMem, secondLeased, same ▸ key⟩
  · intro worker tx running failed
    have own := holds.own worker
    simp only [WorkerHolds, running, failed] at own
    exact own.2 rfl

/-- Two workers lock different jobs of one key; the second one finds the
advisory lock taken. -/
def racingRun : List (Nat × ClaimAction) :=
  let request (job dedupeKey : String) : EnqueueRequest :=
    ⟨⟨job⟩, "receipt.ingest", ⟨some 1, []⟩, dedupeKey, some "account:1", 0, 0,
      3⟩
  let environment (worker : String) : WorkStore.ClaimEnvironment :=
    ⟨fun _ => false, fun _ => false, fun job => ⟨worker ++ job.text⟩,
      fun job => ⟨job.text ++ worker⟩⟩
  [(0, .call 0 (.enqueue (request "a" "first"))),
    (0, .call 0 (.enqueue (request "b" "second"))),
    (0, .begin 0 ⟨1, "worker-0", 10⟩ (environment "0")),
    (1, .begin 0 ⟨1, "worker-1", 10⟩ (environment "1")),
    (0, .lockRow), (1, .skipRow), (1, .lockRow),
    (0, .advance), (1, .advance),
    (0, .advance), (0, .advance),
    (1, .advance), (1, .advance),
    (0, .advance), (0, .advance), (0, .advance),
    (1, .advance), (1, .advance)]

theorem serialization_exclusivity_race :
    ∃ pool, runLabels (poolStep (act fun _ => 0))
        (Pool.idle ClaimWorld.initial) racingRun = some pool ∧
      (pool.world.db.jobs.rows.map JobRow.state = [.leased, .queued]) ∧
      ∀ first ∈ pool.world.db.jobs, ∀ second ∈ pool.world.db.jobs,
        first.state = .leased → second.state = .leased →
        first.serializationKey ≠ none →
        first.serializationKey = second.serializationKey →
          first = second := by
  refine ⟨_, rfl, by decide, ?_⟩
  exact (serialization_exclusivity (fun _ => 0)
    (reaches_of_runLabels (permits_anyStep _ racingRun) rfl)).1

end ClaimConcurrency

end ZaloBot
