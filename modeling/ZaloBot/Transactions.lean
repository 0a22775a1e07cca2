import Mathlib

/-!
# Transaction bodies

A transaction body reads and writes a private copy of the state and ends in a
value or an error.  Committing publishes the copy; an error rolls the whole
body back.
-/

namespace ZaloBot

/-- A transaction body is run against the committed state; an error rolls
everything back. -/
def commitOrRollback {Db Value Error : Type*}
    (body : Db → Except Error (Value × Db)) (db : Db) :
    Except Error Value × Db :=
  match body db with
  | .ok (value, after) => (.ok value, after)
  | .error error => (.error error, db)

theorem commitOrRollback_of_error {Db Value Error : Type*}
    {body : Db → Except Error (Value × Db)} {db : Db} {error : Error}
    (failed : body db = .error error) :
    commitOrRollback body db = (.error error, db) := by
  simp [commitOrRollback, failed]

theorem commitOrRollback_of_ok {Db Value Error : Type*}
    {body : Db → Except Error (Value × Db)} {db after : Db} {value : Value}
    (succeeded : body db = .ok (value, after)) :
    commitOrRollback body db = (.ok value, after) := by
  simp [commitOrRollback, succeeded]

/-- A body of several steps succeeds exactly when each step does. -/
theorem except_bind_eq_ok {Value Next Error : Type*}
    {first : Except Error Value} {rest : Value → Except Error Next}
    {result : Next} :
    first.bind rest = .ok result ↔
      ∃ value, first = .ok value ∧ rest value = .ok result := by
  cases first <;> simp [Except.bind]

end ZaloBot
