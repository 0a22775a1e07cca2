import Mathlib.Data.Set.Finite.Lattice
import ZaloBot.SessionRuns

/-!
# Finite stores and sessions that run alone

A run writes finitely many rows.  A session that runs alone is never made to
wait, so what it does is determined by the store it starts in: `endsAlone` says
that it ends without an error, and what holds then.
-/

namespace ZaloBot

namespace Sessions

open LabelledRuns TaskPool

variable {Key : Type} {Row : Key → Type} [DecidableEq Key]
variable {Event Error Value Other Request : Type}

section Support

/-- Stores that differ in finitely many rows. -/
def FinitelyChanged (before after : Store Row) : Prop :=
  {key | after key ≠ before key}.Finite

omit [DecidableEq Key] in
theorem FinitelyChanged.refl (store : Store Row) :
    FinitelyChanged store store := by
  simp [FinitelyChanged]

omit [DecidableEq Key] in
/-- Finitely many further rows. -/
theorem FinitelyChanged.further {first middle last : Store Row}
    {touched : Set Key} (changed : FinitelyChanged first middle)
    (finite : touched.Finite)
    (same : ∀ key, key ∉ touched → last key = middle key) :
    FinitelyChanged first last := by
  refine (changed.union finite).subset fun key differs => ?_
  by_cases touches : key ∈ touched
  · exact Or.inr touches
  · exact Or.inl fun sameRow => differs ((same key touches).trans sameRow)

/-- A session that has written finitely many rows. -/
def WritesFinitely :
    Option (SessionTask Row Event Error Value) → Prop
  | some (.running own _) => {key | own key ≠ none}.Finite
  | _ => True

omit [DecidableEq Key] in
theorem finite_none :
    {key | (Overlay.none : Overlay Row) key ≠ none}.Finite := by
  simp [Overlay.none]

theorem finite_set {own : Overlay Row} {key : Key} {row : Option (Row key)}
    (finite : {key | own key ≠ none}.Finite) :
    {other | own.set key row other ≠ none}.Finite := by
  refine (finite.insert key).subset fun other written => ?_
  by_cases same : other = key
  · exact Or.inl same
  · refine Or.inr ?_
    rwa [Set.mem_ofPred_eq, Overlay.set, Function.update_of_ne same] at written

variable {database after : Database Row Event} {owner : Nat}
variable {own : Overlay Row} {rest : Session Row Event Error Value}
variable {initial : Store Row}

omit [DecidableEq Key] in
theorem FinitelyChanged.commit
    (changed : FinitelyChanged initial database.store)
    (finite : {key | own key ≠ none}.Finite) :
    FinitelyChanged initial (own.view database.store) := by
  refine changed.further finite fun key unwritten => ?_
  have nothing : own key = none := by simpa using unwritten
  simp [Overlay.view, nothing]

theorem FinitelyChanged.emit {key : Key} {row : Option (Row key)}
    (changed : FinitelyChanged initial database.store) :
    FinitelyChanged initial (Function.update database.store key row) := by
  refine changed.further (Set.finite_singleton key) fun other different => ?_
  exact Function.update_of_ne different _ _

theorem advance_finite {task : SessionTask Row Event Error Value}
    (changed : FinitelyChanged initial database.store)
    (finite : {key | own key ≠ none}.Finite)
    (acted : advance database owner own rest = some (after, task)) :
    FinitelyChanged initial after.store ∧
      WritesFinitely (some task) := by
  cases rest with
  | done value =>
      cases acted
      exact ⟨changed, trivial⟩
  | fail error =>
      cases acted
      exact ⟨changed, trivial⟩
  | read next failed =>
      cases acted
      exact ⟨changed, finite⟩
  | lock mode key wanted next failed =>
      simp only [advance] at acted
      split at acted
      · split at acted
        · cases acted
          exact ⟨changed, finite⟩
        · contradiction
      · cases acted
        exact ⟨changed, finite⟩
  | write key row next =>
      simp only [advance] at acted
      split at acted
      · cases acted
        exact ⟨changed, finite_set finite⟩
      · contradiction
  | commit event next failed =>
      cases acted
      exact ⟨changed.commit finite, finite_none⟩
  | rollback next =>
      cases acted
      exact ⟨changed, finite_none⟩
  | emit event key row next failed =>
      simp only [advance] at acted
      split at acted
      · cases acted
        exact ⟨changed.emit, finite⟩
      · contradiction

omit [DecidableEq Key] in
theorem fault_finite {task : SessionTask Row Event Error Value}
    (changed : FinitelyChanged initial database.store)
    (finite : {key | own key ≠ none}.Finite)
    (acted : fault database owner own rest = some (after, task)) :
    FinitelyChanged initial after.store ∧
      WritesFinitely (some task) := by
  cases rest <;> cases acted
  case commit => exact ⟨changed, finite_none⟩
  all_goals exact ⟨changed, finite⟩

theorem loseAcknowledgement_finite
    {task : SessionTask Row Event Error Value}
    (changed : FinitelyChanged initial database.store)
    (finite : {key | own key ≠ none}.Finite)
    (acted : loseAcknowledgement database owner own rest =
      some (after, task)) :
    FinitelyChanged initial after.store ∧
      WritesFinitely (some task) := by
  cases rest with
  | commit event next failed =>
      cases acted
      exact ⟨changed.commit finite, finite_none⟩
  | emit event key row next failed =>
      simp only [loseAcknowledgement] at acted
      split at acted
      · cases acted
        exact ⟨changed.emit, finite⟩
      · contradiction
  | _ => contradiction

/-- A run changes finitely many rows. -/
theorem finitelyChanged_of_reaches
    {program : Request → Session Row Event Error Value}
    {allowed : Pool (Database Row Event)
      (SessionTask Row Event Error Value) →
        Nat × SessionLabel Request → Prop}
    {pool : Pool (Database Row Event) (SessionTask Row Event Error Value)}
    (run : Reaches (poolStep (sessionAct program)) allowed
      (Pool.idle (Database.fresh initial)) pool) :
    FinitelyChanged initial pool.world.store := by
  refine (Holds.reaches ?_ run ⟨.refl initial, fun _ => trivial⟩ :
    Holds (fun database => FinitelyChanged initial database.store)
      (fun _ _ => WritesFinitely) pool).shared
  intro before index label world task holds permitted acted
  clear permitted
  have changed := holds.shared
  have finite := holds.own index
  have others (other : Nat) (_ : other ≠ index) := holds.own other
  unfold sessionAct at acted
  split at acted
  · cases acted
    exact ⟨changed, finite_none, others⟩
  · rename_i own rest running
    obtain ⟨⟨after, reached⟩, stepTo, same⟩ :=
      Option.map_eq_some_iff.mp acted
    cases same
    rw [running] at finite
    have kept := advance_finite changed finite stepTo
    exact ⟨kept.1, kept.2, others⟩
  · rename_i own rest running
    obtain ⟨⟨after, reached⟩, stepTo, same⟩ :=
      Option.map_eq_some_iff.mp acted
    cases same
    rw [running] at finite
    have kept := fault_finite changed finite stepTo
    exact ⟨kept.1, kept.2, others⟩
  · rename_i own rest running
    obtain ⟨⟨after, reached⟩, stepTo, same⟩ :=
      Option.map_eq_some_iff.mp acted
    cases same
    rw [running] at finite
    have kept := loseAcknowledgement_finite changed finite stepTo
    exact ⟨kept.1, kept.2, others⟩
  · cases acted
    exact ⟨changed, trivial, others⟩
  · contradiction

end Support

section Alone

variable {own : Overlay Row} {database : Database Row Event}

/-- One step of a session when nothing else happens. -/
def SoloStep (owner : Nat)
    (before after : Database Row Event × SessionTask Row Event Error Value) :
    Prop :=
  ∃ own rest, before.2 = .running own rest ∧
    advance before.1 owner own rest = some after

/-- A session that runs alone on a store and ends in another one. -/
def RunsAlone (session : Session Row Event Error Value)
    (before : Store Row) (value : Value) (after : Store Row) : Prop :=
  ∃ database, Relation.ReflTransGen (SoloStep 0)
    (Database.fresh before, .running Overlay.none session)
    (database, .ended (.ok value)) ∧ database.store = after

/-- What has to hold for a session to end without an error when it runs alone,
and then with a postcondition. -/
def endsAlone (session : Session Row Event Error Value) (own : Overlay Row)
    (database : Database Row Event)
    (post : Value → Overlay Row → Database Row Event → Prop) : Prop :=
  match session with
  | .done value => post value own database
  | .fail _ => False
  | .read next _ => endsAlone (next (own.view database.store)) own database post
  | .lock mode key wanted next _ =>
      let row := own.view database.store key
      if wanted row then
        database.lockable 0 key mode = true ∧
          endsAlone (next row) own { database with
            locks := ⟨0, key, mode⟩ :: database.locks } post
      else
        endsAlone (next row) own database post
  | .write key row next =>
      database.writable 0 key = true ∧
        endsAlone next (own.set key row) database post
  | .commit event next _ =>
      endsAlone next Overlay.none ((database.publish 0 event
        (own.view database.store)).release 0) post
  | .rollback next => endsAlone next Overlay.none (database.release 0) post
  | .emit event key row next _ =>
      database.untouched key = true ∧
        endsAlone next own (database.publish 0 event
          (Function.update database.store key row)) post

theorem endsAlone_mono {session : Session Row Event Error Value}
    {strong weak : Value → Overlay Row → Database Row Event → Prop}
    (implies : ∀ value own database, strong value own database →
      weak value own database)
    (succeeded : endsAlone session own database strong) :
    endsAlone session own database weak := by
  induction session generalizing own database with
  | done value => exact implies _ _ _ succeeded
  | fail error => exact succeeded
  | read next failed ihNext _ => exact ihNext _ succeeded
  | lock mode key wanted next failed ihNext _ =>
      simp only [endsAlone] at succeeded ⊢
      split
      · rename_i hit
        rw [if_pos hit] at succeeded
        exact ⟨succeeded.1, ihNext _ succeeded.2⟩
      · rename_i missed
        rw [if_neg missed] at succeeded
        exact ihNext _ succeeded
  | write key row next ihNext => exact ⟨succeeded.1, ihNext succeeded.2⟩
  | commit event next failed ihNext _ => exact ihNext succeeded
  | rollback next ihNext => exact ihNext succeeded
  | emit event key row next failed ihNext _ =>
      exact ⟨succeeded.1, ihNext succeeded.2⟩

/-- Sequencing. -/
theorem endsAlone_bind {first : Session Row Event Error Value}
    {rest : Value → Session Row Event Error Other}
    {post : Other → Overlay Row → Database Row Event → Prop} :
    endsAlone (first >>= rest) own database post ↔
      endsAlone first own database fun value own database =>
        endsAlone (rest value) own database post := by
  change endsAlone (first.bind rest) own database post ↔ _
  induction first generalizing own database with
  | done value => exact Iff.rfl
  | fail error => exact Iff.rfl
  | read next failed ihNext _ => exact ihNext _
  | lock mode key wanted next failed ihNext _ =>
      simp only [Session.bind, endsAlone, ihNext]
  | write key row next ihNext =>
      simp only [Session.bind, endsAlone, ihNext]
  | commit event next failed ihNext _ => exact ihNext
  | rollback next ihNext => exact ihNext
  | emit event key row next failed ihNext _ =>
      simp only [Session.bind, endsAlone, ihNext]

/-- What endsAlone runs to its end. -/
theorem runs_of_endsAlone {session : Session Row Event Error Value}
    {post : Value → Overlay Row → Database Row Event → Prop}
    (succeeded : endsAlone session own database post) :
    ∃ value last final, Relation.ReflTransGen (SoloStep 0)
      (database, .running own session)
      (final.release 0, .ended (.ok value)) ∧ post value last final := by
  induction session generalizing own database with
  | done value =>
      exact ⟨value, own, database, .single ⟨own, .done value, rfl, rfl⟩,
        succeeded⟩
  | fail error => contradiction
  | read next failed ihNext _ =>
      obtain ⟨value, last, final, run, holds⟩ := ihNext _ succeeded
      exact ⟨value, last, final,
        .head ⟨own, .read next failed, rfl, rfl⟩ run, holds⟩
  | lock mode key wanted next failed ihNext _ =>
      simp only [endsAlone] at succeeded
      split at succeeded
      · rename_i hit
        obtain ⟨value, last, final, run, holds⟩ := ihNext _ succeeded.2
        refine ⟨value, last, final, .head
          ⟨own, .lock mode key wanted next failed, rfl, ?_⟩ run, holds⟩
        simp only [advance]
        rw [if_pos hit, if_pos succeeded.1]
      · rename_i missed
        obtain ⟨value, last, final, run, holds⟩ := ihNext _ succeeded
        refine ⟨value, last, final, .head
          ⟨own, .lock mode key wanted next failed, rfl, ?_⟩ run, holds⟩
        simp only [advance]
        rw [if_neg missed]
  | write key row next ihNext =>
      obtain ⟨value, last, final, run, holds⟩ := ihNext succeeded.2
      refine ⟨value, last, final, .head
        ⟨own, .write key row next, rfl, ?_⟩ run, holds⟩
      simp only [advance]
      rw [if_pos succeeded.1]
  | commit event next failed ihNext _ =>
      obtain ⟨value, last, final, run, holds⟩ := ihNext succeeded
      exact ⟨value, last, final,
        .head ⟨own, .commit event next failed, rfl, rfl⟩ run, holds⟩
  | rollback next ihNext =>
      obtain ⟨value, last, final, run, holds⟩ := ihNext succeeded
      exact ⟨value, last, final,
        .head ⟨own, .rollback next, rfl, rfl⟩ run, holds⟩
  | emit event key row next failed ihNext _ =>
      obtain ⟨value, last, final, run, holds⟩ := ihNext succeeded.2
      refine ⟨value, last, final, .head
        ⟨own, .emit event key row next failed, rfl, ?_⟩ run, holds⟩
      simp only [advance]
      rw [if_pos succeeded.1]

theorem soloStep_rightUnique (owner : Nat) :
    Relator.RightUnique (SoloStep owner :
      Database Row Event × SessionTask Row Event Error Value →
        Database Row Event × SessionTask Row Event Error Value → Prop) := by
  rintro before first second ⟨own, rest, running, stepTo⟩
    ⟨otherOwn, otherRest, otherRunning, otherStepTo⟩
  rw [running] at otherRunning
  cases otherRunning
  exact Option.some.inj (stepTo.symm.trans otherStepTo)

/-- A session that runs alone ends in one way only. -/
theorem ended_unique {state : Database Row Event ×
      SessionTask Row Event Error Value} {first second : Database Row Event}
    {result other : Except Error Value}
    (run : Relation.ReflTransGen (SoloStep 0) state (first, .ended result))
    (otherRun : Relation.ReflTransGen (SoloStep 0) state
      (second, .ended other)) :
    (first, result) = (second, other) := by
  have stops {database after : Database Row Event}
      {result other : Except Error Value}
      (run : Relation.ReflTransGen (SoloStep 0)
        (database, SessionTask.ended result) (after, .ended other)) :
      (database, result) = (after, other) := by
    rcases Relation.ReflTransGen.cases_head run with
      same | ⟨next, ⟨own, rest, running, _⟩, _⟩
    · simpa using same
    · contradiction
  rcases Relation.ReflTransGen.total_of_right_unique (soloStep_rightUnique 0)
    run otherRun with further | further
  · exact stops further
  · exact (stops further).symm

variable {session : Session Row Event Error Value} {before : Store Row}
variable {post : Value → Overlay Row → Database Row Event → Prop}

/-- A session that endsAlone runs alone. -/
theorem runsAlone_of_endsAlone
    (succeeded : endsAlone session Overlay.none (Database.fresh before)
      post) :
    ∃ value last final, RunsAlone session before value
      (final : Database Row Event).store ∧ post value last final := by
  obtain ⟨value, last, final, run, holds⟩ := runs_of_endsAlone succeeded
  exact ⟨value, last, final, ⟨final.release 0, run, rfl⟩, holds⟩

/-- What holds after a session that has run alone. -/
theorem RunsAlone.ends {value : Value} {after : Store Row}
    (ran : RunsAlone session before value after)
    (succeeded : endsAlone session Overlay.none (Database.fresh before)
      post) :
    ∃ last final, Database.store final = after ∧ post value last final := by
  obtain ⟨database, run, rfl⟩ := ran
  obtain ⟨other, last, final, otherRun, holds⟩ := runs_of_endsAlone succeeded
  have same := ended_unique run otherRun
  simp only [Prod.mk.injEq, Except.ok.injEq] at same
  obtain ⟨rfl, rfl⟩ := same
  exact ⟨last, final, rfl, holds⟩

end Alone

section Executions

variable {own middle last : Overlay Row} {store between after : Store Row}
variable {effects : Key → Prop}

/-- Locks of a session that runs alone, on rows that are not changed by effects
outside the database. -/
def HeldAlone (effects : Key → Prop) (locks : List (HeldLock Key)) : Prop :=
  ∀ held ∈ locks, held.owner = 0 ∧ ¬ effects held.key

/-- A session that runs alone evaluates to a value, with the writes and the
store it leaves behind, whatever it has locked before. -/
def Executes (effects : Key → Prop) (session : Session Row Event Error Value)
    (own : Overlay Row) (store : Store Row) (value : Value)
    (last : Overlay Row) (after : Store Row) : Prop :=
  ∀ database : Database Row Event, database.store = store →
    HeldAlone effects database.locks →
      endsAlone session own database fun result own database =>
        result = value ∧ own = last ∧ database.store = after ∧
          HeldAlone effects database.locks

omit [DecidableEq Key] in
theorem HeldAlone.lock {locks : List (HeldLock Key)} {key : Key}
    {mode : LockMode} (alone : HeldAlone effects locks)
    (lockable : ¬ effects key) :
    HeldAlone effects (⟨0, key, mode⟩ :: locks) := by
  intro held member
  rcases List.mem_cons.mp member with rfl | earlier
  · exact ⟨rfl, lockable⟩
  · exact alone held earlier

theorem HeldAlone.lockable {database : Database Row Event} {key : Key}
    {mode : LockMode} (alone : HeldAlone effects database.locks) :
    database.lockable 0 key mode = true := by
  refine List.all_eq_true.mpr fun held member => ?_
  simp [(alone held member).1]

theorem HeldAlone.untouched {database : Database Row Event} {key : Key}
    (alone : HeldAlone effects database.locks) (effect : effects key) :
    database.untouched key = true := by
  refine List.all_eq_true.mpr fun held member => ?_
  simp only [ne_eq, decide_not, Bool.not_eq_true', decide_eq_false_iff_not]
  rintro rfl
  exact (alone held member).2 effect

theorem writable_lock {database : Database Row Event} {key : Key} :
    ({ database with locks := ⟨0, key, .exclusive⟩ :: database.locks } :
      Database Row Event).writable 0 key = true := by
  simp [Database.writable]

theorem executes_pure {value : Value} :
    Executes effects (pure value : Session Row Event Error Value) own store
      value own store :=
  fun _ same alone => ⟨rfl, rfl, same, alone⟩

theorem Executes.bind {first : Session Row Event Error Value}
    {rest : Value → Session Row Event Error Other} {value : Value}
    {result : Other}
    (begins : Executes effects first own store value middle between)
    (ends : Executes effects (rest value) middle between result last after) :
    Executes effects (first >>= rest) own store result last after := by
  intro database same alone
  rw [endsAlone_bind]
  refine endsAlone_mono ?_ (begins database same alone)
  rintro _ _ reached ⟨rfl, rfl, sameReached, aloneReached⟩
  exact ends reached sameReached aloneReached

theorem executes_query {error : Error} {ask : Store Row → Value} :
    Executes effects (.query error ask : Session Row Event Error Value) own
      store (ask (own.view store)) own store := by
  rintro database rfl alone
  exact ⟨rfl, rfl, rfl, alone⟩

theorem executes_selectForUpdate {error : Error} {key : Key}
    {condition : Row key → Bool} (lockable : ¬ effects key) :
    Executes effects
      (.selectForUpdate error key condition :
        Session Row Event Error (Option (Row key))) own store
      ((own.view store key).filter condition) own store := by
  rintro database rfl alone
  unfold Session.selectForUpdate endsAlone
  dsimp only
  split
  · exact ⟨alone.lockable, rfl, rfl, rfl, alone.lock lockable⟩
  · exact ⟨rfl, rfl, rfl, alone⟩

theorem executes_commitTransaction {error : Error} {event : Event} :
    Executes effects
      (.commitTransaction error event : Session Row Event Error Unit) own
      store () Overlay.none (own.view store) := by
  rintro database rfl alone
  refine ⟨rfl, rfl, rfl, fun held member => ?_⟩
  exact alone held (List.mem_of_mem_filter member)

theorem executes_emit {event : Event} {key : Key} {row : Option (Row key)}
    {value : Value} {failed : Session Row Event Error Value}
    (effect : effects key) :
    Executes effects (.emit event key row (pure value) failed) own store
      value own (Function.update store key row) := by
  rintro database rfl alone
  exact ⟨alone.untouched effect, rfl, rfl, rfl, alone⟩

/-- The store that a session leaves when it runs alone. -/
theorem Executes.runsAlone {session : Session Row Event Error Value}
    {value : Value}
    (executes : Executes effects session Overlay.none store value last
      after) : RunsAlone session store value after := by
  obtain ⟨_, _, _, ran, rfl, rfl, rfl, _⟩ := runsAlone_of_endsAlone
    (executes (Database.fresh store) rfl (by simp [HeldAlone, Database.fresh]))
  exact ran

theorem Executes.unique {session : Session Row Event Error Value}
    {value result : Value} {final : Store Row}
    (executes : Executes effects session Overlay.none store value last after)
    (ran : RunsAlone session store result final) :
    result = value ∧ final = after := by
  obtain ⟨_, _, rfl, rfl, rfl, rfl, _⟩ := ran.ends
    (executes (Database.fresh store) rfl (by simp [HeldAlone, Database.fresh]))
  exact ⟨rfl, rfl⟩

end Executions

section Parts

namespace Session

/-- What a part of a transaction that runs alone makes of the rows it sees. -/
def applied : Session Row Event Error Value → Store Row →
    Except Error (Value × Store Row)
  | .done value, view => .ok (value, view)
  | .fail error, _ => .error error
  | .read next _, view => (next view).applied view
  | .lock _ key _ next _, view => (next (view key)).applied view
  | .write key row next, view => next.applied (Function.update view key row)
  | .commit _ next _, view => next.applied view
  | .rollback next, view => next.applied view
  | .emit _ key row next _, view =>
      next.applied (Function.update view key row)

/-- The rows after a transaction with a single part: an error rolls it back. -/
def afterTransaction (part : Session Row Event Error Value)
    (store : Store Row) : Store Row :=
  match part.applied store with
  | .ok (_, after) => after
  | .error _ => store

theorem applied_bind {first : Session Row Event Error Value}
    {rest : Value → Session Row Event Error Other} {view : Store Row} :
    (first >>= rest).applied view =
      (first.applied view).bind fun (value, after) =>
        (rest value).applied after := by
  change (first.bind rest).applied view = _
  induction first generalizing view with
  | done value => rfl
  | fail error => rfl
  | read next failed ihNext _ => exact ihNext _
  | lock mode key wanted next failed ihNext _ => exact ihNext _
  | write key row next ihNext => exact ihNext
  | commit event next failed ihNext _ => exact ihNext
  | rollback next ihNext => exact ihNext
  | emit event key row next failed ihNext _ => exact ihNext

@[simp]
theorem applied_pure {value : Value} {view : Store Row} :
    (pure value : Session Row Event Error Value).applied view =
      .ok (value, view) :=
  rfl

@[simp]
theorem applied_query {error : Error} {ask : Store Row → Value}
    {view : Store Row} :
    (query error ask : Session Row Event Error Value).applied view =
      .ok (ask view, view) :=
  rfl

theorem applied_insertRow_taken {error : Error} {key : Key} {row old : Row key}
    {view : Store Row} (present : view key = some old) :
    (insertRow error key row : Session Row Event Error Bool).applied view =
      .ok (false, view) := by
  simp [insertRow, applied, present]

theorem applied_insertRow_free {error : Error} {key : Key} {row : Row key}
    {view : Store Row} (absent : view key = none) :
    (insertRow error key row : Session Row Event Error Bool).applied view =
      .ok (true, Function.update view key (some row)) := by
  simp [insertRow, applied, absent]

end Session

end Parts

end Sessions

end ZaloBot
