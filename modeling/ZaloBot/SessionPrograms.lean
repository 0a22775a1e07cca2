import Mathlib

/-!
# Database sessions as programs

A session is the database side of one call: statements that read a snapshot,
statements that lock one row, writes to locked rows, commits, rollbacks and
effects outside the database.  Every statement may fail, and then the session
continues as its code does after an error.  Rows are addressed by keys; the
entries of unique indexes are rows of their own.

Statements of the source are built from these pieces.  A conditional `UPDATE`
locks its row if the row satisfies the condition and then writes it; an
`INSERT` locks its key if the key is free.
-/

namespace ZaloBot

namespace Sessions

/-- Committed rows by key. -/
abbrev Store {Key : Type} (Row : Key → Type) :=
  ∀ key, Option (Row key)

inductive LockMode where
  | shared
  | exclusive
deriving DecidableEq, Repr

/-- The remaining work of a session. -/
inductive Session {Key : Type} (Row : Key → Type)
    (Event Error Value : Type) : Type where
  | done (value : Value)
  | fail (error : Error)
  | read (next : Store Row → Session Row Event Error Value)
      (failed : Session Row Event Error Value)
  | lock (mode : LockMode) (key : Key) (wanted : Option (Row key) → Bool)
      (next : Option (Row key) → Session Row Event Error Value)
      (failed : Session Row Event Error Value)
  | write (key : Key) (row : Option (Row key))
      (next : Session Row Event Error Value)
  | commit (event : Event) (next failed : Session Row Event Error Value)
  | rollback (next : Session Row Event Error Value)
  | emit (event : Event) (key : Key) (row : Option (Row key))
      (next failed : Session Row Event Error Value)

variable {Key : Type} {Row : Key → Type}

/-- The uncommitted writes of a session. -/
abbrev Overlay (Row : Key → Type) :=
  ∀ key, Option (Option (Row key))

namespace Overlay

/-- A session that has written nothing. -/
def none : Overlay Row :=
  fun _ => Option.none

/-- What a session sees: its own writes over the committed rows. -/
def view (own : Overlay Row) (store : Store Row) : Store Row :=
  fun key => (own key).getD (store key)

/-- One more write. -/
def set [DecidableEq Key] (own : Overlay Row) (key : Key)
    (row : Option (Row key)) : Overlay Row :=
  Function.update own key (some row)

@[simp]
theorem none_view (store : Store Row) :
    (Overlay.none : Overlay Row).view store = store :=
  rfl

section Updates

variable [DecidableEq Key]

theorem set_view (own : Overlay Row) (key : Key) (row : Option (Row key))
    (store : Store Row) :
    (own.set key row).view store =
      Function.update (own.view store) key row := by
  funext other
  by_cases same : other = key
  · subst same
    simp [view, set]
  · simp [view, set, Function.update_of_ne same]

@[simp]
theorem set_view_self (own : Overlay Row) (key : Key)
    (row : Option (Row key)) (store : Store Row) :
    (own.set key row).view store key = row := by
  rw [set_view, Function.update_self]

theorem set_view_other {own : Overlay Row} {key other : Key}
    {row : Option (Row key)} {store : Store Row} (different : other ≠ key) :
    (own.set key row).view store other = own.view store other := by
  rw [set_view, Function.update_of_ne different]

end Updates

end Overlay

namespace Session

variable {Event Error Value Other : Type}

/-- Run a second session on the result of a first one. -/
def bind (first : Session Row Event Error Value)
    (rest : Value → Session Row Event Error Other) :
    Session Row Event Error Other :=
  match first with
  | .done value => rest value
  | .fail error => .fail error
  | .read next failed =>
      .read (fun view => (next view).bind rest) (failed.bind rest)
  | .lock mode key wanted next failed =>
      .lock mode key wanted (fun row => (next row).bind rest)
        (failed.bind rest)
  | .write key row next => .write key row (next.bind rest)
  | .commit event next failed =>
      .commit event (next.bind rest) (failed.bind rest)
  | .rollback next => .rollback (next.bind rest)
  | .emit event key row next failed =>
      .emit event key row (next.bind rest) (failed.bind rest)

instance : Monad (Session Row Event Error) where
  pure := .done
  bind := bind

/-- Keep the error of a session as a value.  The transaction the error leaves
behind is rolled back. -/
def attempt (session : Session Row Event Error Value) :
    Session Row Event Error (Except Error Value) :=
  match session with
  | .done value => .done (.ok value)
  | .fail error => .rollback (.done (.error error))
  | .read next failed =>
      .read (fun view => (next view).attempt) failed.attempt
  | .lock mode key wanted next failed =>
      .lock mode key wanted (fun row => (next row).attempt) failed.attempt
  | .write key row next => .write key row next.attempt
  | .commit event next failed =>
      .commit event next.attempt failed.attempt
  | .rollback next => .rollback next.attempt
  | .emit event key row next failed =>
      .emit event key row next.attempt failed.attempt

/-- Report the errors of a session under another type. -/
def mapError {NewError : Type} (report : Error → NewError)
    (session : Session Row Event Error Value) :
    Session Row Event NewError Value :=
  match session with
  | .done value => .done value
  | .fail error => .fail (report error)
  | .read next failed =>
      .read (fun view => (next view).mapError report) (failed.mapError report)
  | .lock mode key wanted next failed =>
      .lock mode key wanted (fun row => (next row).mapError report)
        (failed.mapError report)
  | .write key row next => .write key row (next.mapError report)
  | .commit event next failed =>
      .commit event (next.mapError report) (failed.mapError report)
  | .rollback next => .rollback (next.mapError report)
  | .emit event key row next failed =>
      .emit event key row (next.mapError report) (failed.mapError report)

/-- A plain query; `error` is what the code makes of its failure. -/
def query (error : Error) (ask : Store Row → Value) :
    Session Row Event Error Value :=
  .read (fun view => .done (ask view)) (.fail error)

/-- `SELECT … FOR UPDATE` of one row: the row if it satisfies the condition,
locked in that case. -/
def selectForUpdate (error : Error) (key : Key)
    (condition : Row key → Bool) :
    Session Row Event Error (Option (Row key)) :=
  .lock .exclusive key (fun row => row.any condition)
    (fun row => .done (row.filter condition)) (.fail error)

/-- `UPDATE` of one row; the result says whether a row was affected. -/
def updateRow (error : Error) (key : Key) (condition : Row key → Bool)
    (change : Row key → Row key) : Session Row Event Error Bool :=
  .lock .exclusive key (fun row => row.any condition)
    (fun row =>
      match row.filter condition with
      | none => .done false
      | some old => .write key (some (change old)) (.done true))
    (.fail error)

/-- `INSERT … ON CONFLICT DO NOTHING`; the result says whether the row was
inserted. -/
def insertRow (error : Error) (key : Key) (row : Row key) :
    Session Row Event Error Bool :=
  .lock .exclusive key (fun existing => existing.isNone)
    (fun existing =>
      match existing with
      | some _ => .done false
      | none => .write key (some row) (.done true))
    (.fail error)

/-- `INSERT … ON CONFLICT DO UPDATE`. -/
def upsertRow (error : Error) (key : Key) (fresh : Row key)
    (change : Row key → Row key) : Session Row Event Error Unit :=
  .lock .exclusive key (fun _ => true)
    (fun existing =>
      .write key (some ((existing.map change).getD fresh)) (.done ()))
    (.fail error)

/-- A batch statement, row by row. -/
def forRows {Index : Type} (statement : Index → Session Row Event Error Unit) :
    List Index → Session Row Event Error Unit
  | [] => pure ()
  | index :: indices => do
      statement index
      forRows statement indices

/-- `COMMIT`. -/
def commitTransaction (error : Error) (event : Event) :
    Session Row Event Error Unit :=
  .commit event (.done ()) (.fail error)

end Session

end Sessions

end ZaloBot
