import ZaloBot.SessionPrograms
import ZaloBot.TaskPool

/-!
# Concurrent sessions under READ COMMITTED

Any number of sessions run over one store.  A statement sees the rows that are
committed when it runs, with the session's own writes over them.  Locks are
held until the transaction ends, and a statement that wants a row locked by
another session waits.  Commits and outside effects are recorded in a log.
Sessions fail at any statement, lose the acknowledgement of a commit, or are
dropped.

The rule of this module verifies each session on its own.  Rows a session has
locked are the same at its commit as when it locked them, so a transaction is
checked against the store it commits to; a plain read may have seen any
earlier store.
-/

namespace ZaloBot

namespace Sessions

open LabelledRuns TaskPool

variable {Key : Type} {Row : Key → Type}
variable {Event Error Value Request : Type}

structure HeldLock (Key : Type) where
  owner : Nat
  key : Key
  mode : LockMode
deriving DecidableEq, Repr

/-- One change of the committed rows. -/
structure Publication (Row : Key → Type) (Event : Type) where
  owner : Nat
  event : Event
  before : Store Row
  after : Store Row

/-- The committed rows, the locks and the log, latest publication first. -/
structure Database (Row : Key → Type) (Event : Type) where
  store : Store Row
  locks : List (HeldLock Key)
  log : List (Publication Row Event)

/-- Where a session is. -/
inductive SessionTask (Row : Key → Type) (Event Error Value : Type) where
  | running (own : Overlay Row) (rest : Session Row Event Error Value)
  | ended (result : Except Error Value)
  | dropped

inductive SessionLabel (Request : Type) where
  | begin (request : Request)
  | advance
  | fault
  | loseAcknowledgement
  | drop

namespace Database

/-- A database that nobody uses yet. -/
def fresh (store : Store Row) : Database Row Event :=
  ⟨store, [], []⟩

/-- The end of a transaction. -/
def release (database : Database Row Event) (owner : Nat) :
    Database Row Event :=
  { database with
    locks := database.locks.filter fun held => held.owner ≠ owner }

/-- Replace the committed rows. -/
def publish (database : Database Row Event) (owner : Nat) (event : Event)
    (after : Store Row) : Database Row Event :=
  { database with
    store := after
    log := ⟨owner, event, database.store, after⟩ :: database.log }

variable [DecidableEq Key]

/-- Whether a session may lock a row now. -/
def lockable (database : Database Row Event) (owner : Nat) (key : Key)
    (mode : LockMode) : Bool :=
  database.locks.all fun held =>
    held.owner = owner || held.key ≠ key ||
      (held.mode = .shared && mode = .shared)

/-- Whether a session may write a row now. -/
def writable (database : Database Row Event) (owner : Nat) (key : Key) :
    Bool :=
  database.locks.any fun held =>
    held.owner = owner && held.key = key && held.mode = .exclusive

/-- Whether nobody has locked a row. -/
def untouched (database : Database Row Event) (key : Key) : Bool :=
  database.locks.all fun held => held.key ≠ key

end Database

section Machine

variable [DecidableEq Key]

/-- The next statement succeeds. -/
def advance (database : Database Row Event) (owner : Nat)
    (own : Overlay Row) (rest : Session Row Event Error Value) :
    Option (Database Row Event × SessionTask Row Event Error Value) :=
  match rest with
  | .done value => some (database.release owner, .ended (.ok value))
  | .fail error => some (database.release owner, .ended (.error error))
  | .read next _ =>
      some (database, .running own (next (own.view database.store)))
  | .lock mode key wanted next _ =>
      let row := own.view database.store key
      if wanted row then
        if database.lockable owner key mode then
          some ({ database with
            locks := ⟨owner, key, mode⟩ :: database.locks },
            .running own (next row))
        else
          none
      else
        some (database, .running own (next row))
  | .write key row next =>
      if database.writable owner key then
        some (database, .running (own.set key row) next)
      else
        none
  | .commit event next _ =>
      some ((database.publish owner event (own.view database.store)).release
        owner, .running Overlay.none next)
  | .rollback next =>
      some (database.release owner, .running Overlay.none next)
  | .emit event key row next _ =>
      if database.untouched key then
        some (database.publish owner event
          (Function.update database.store key row), .running own next)
      else
        none

/-- The next statement fails without any effect. -/
def fault (database : Database Row Event) (owner : Nat)
    (own : Overlay Row) (rest : Session Row Event Error Value) :
    Option (Database Row Event × SessionTask Row Event Error Value) :=
  match rest with
  | .read _ failed => some (database, .running own failed)
  | .lock _ _ _ _ failed => some (database, .running own failed)
  | .commit _ _ failed =>
      some (database.release owner, .running Overlay.none failed)
  | .emit _ _ _ _ failed => some (database, .running own failed)
  | _ => none

/-- The next commit or outside effect happens, but reports a failure. -/
def loseAcknowledgement (database : Database Row Event) (owner : Nat)
    (own : Overlay Row) (rest : Session Row Event Error Value) :
    Option (Database Row Event × SessionTask Row Event Error Value) :=
  match rest with
  | .commit event _ failed =>
      some ((database.publish owner event (own.view database.store)).release
        owner, .running Overlay.none failed)
  | .emit event key row _ failed =>
      if database.untouched key then
        some (database.publish owner event
          (Function.update database.store key row), .running own failed)
      else
        none
  | _ => none

/-- One action of one session. -/
def sessionAct (program : Request → Session Row Event Error Value)
    (database : Database Row Event) (owner : Nat)
    (task : Option (SessionTask Row Event Error Value))
    (label : SessionLabel Request) :
    Option (Database Row Event ×
      Option (SessionTask Row Event Error Value)) :=
  match task, label with
  | none, .begin request =>
      some (database, some (.running Overlay.none (program request)))
  | some (.running own rest), .advance =>
      (advance database owner own rest).map fun (after, task) =>
        (after, some task)
  | some (.running own rest), .fault =>
      (fault database owner own rest).map fun (after, task) =>
        (after, some task)
  | some (.running own rest), .loseAcknowledgement =>
      (loseAcknowledgement database owner own rest).map fun (after, task) =>
        (after, some task)
  | some (.running _ _), .drop =>
      some (database.release owner, some .dropped)
  | _, _ => none

/-- The event that a session publishes next. -/
def Session.publishes : Session Row Event Error Value → Option Event
  | .commit event _ _ => some event
  | .emit event _ _ _ _ => some event
  | _ => none

/-- A condition on the publications of a run: it is met when the publishing
step is taken. -/
def publishesOnly (permitted : Store Row → Event → Prop)
    (pool : Pool (Database Row Event) (SessionTask Row Event Error Value))
    (label : Nat × SessionLabel Request) : Prop :=
  ∀ own rest, pool.tasks label.1 = some (.running own rest) →
    label.2 = .advance ∨ label.2 = .loseAcknowledgement →
      ∀ event ∈ rest.publishes, permitted pool.world.store event

/-- An executable check of the event that a session publishes next. -/
def checksPublication (check : Store Row → Event → Bool)
    (pool : Pool (Database Row Event) (SessionTask Row Event Error Value))
    (label : Nat × SessionLabel Request) : Bool :=
  match pool.tasks label.1 with
  | some (.running _ rest) => rest.publishes.all (check pool.world.store)
  | _ => true

omit [DecidableEq Key] in
theorem publishesOnly_of_check {permitted : Store Row → Event → Prop}
    {check : Store Row → Event → Bool}
    (sound : ∀ store event, check store event = true → permitted store event)
    (pool : Pool (Database Row Event) (SessionTask Row Event Error Value))
    (label : Nat × SessionLabel Request)
    (passed : checksPublication check pool label = true) :
    publishesOnly permitted pool label := by
  intro own rest running _ event publishes
  simp only [checksPublication, running] at passed
  rw [publishes] at passed
  exact sound _ event passed

/-- A condition on the reads of a run: it is met when the reading session's
next statement succeeds. -/
def observesOnly
    (observes : Session Row Event Error Value → Store Row → Prop)
    (pool : Pool (Database Row Event) (SessionTask Row Event Error Value))
    (label : Nat × SessionLabel Request) : Prop :=
  ∀ own rest, pool.tasks label.1 = some (.running own rest) →
    label.2 = .advance → observes rest pool.world.store

/-- Runs of any number of sessions. -/
abbrev SessionReaches (program : Request → Session Row Event Error Value) :
    Pool (Database Row Event) (SessionTask Row Event Error Value) →
      Pool (Database Row Event) (SessionTask Row Event Error Value) → Prop :=
  Reaches (poolStep (sessionAct program)) anyStep

end Machine

end Sessions

end ZaloBot
