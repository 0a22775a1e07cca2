import Mathlib.Algebra.BigOperators.Group.Finset.Piecewise
import Mathlib.Algebra.Order.BigOperators.Group.Finset
import ZaloBot.SessionRuns

/-!
# What one session publishes

The publications of a session are among the ones its program can make,
whatever its reads and locks return and whichever statements fail.  A quantity
that no session can publish more of than of another one is therefore bounded by
the other one in the log of every run.
-/

namespace ZaloBot

namespace Sessions

open LabelledRuns TaskPool

variable {Key : Type} {Row : Key → Type}
variable {Event Error Value Request : Type}

namespace Session

/-- One statement of a session: what it publishes, and what remains. -/
inductive Step : Session Row Event Error Value → Option Event →
    Session Row Event Error Value → Prop where
  | read {next failed} (view) : Step (.read next failed) none (next view)
  | readFailed {next failed} : Step (.read next failed) none failed
  | lock {mode key wanted next failed} (row) :
      Step (.lock mode key wanted next failed) none (next row)
  | lockFailed {mode key wanted next failed} :
      Step (.lock mode key wanted next failed) none failed
  | write {key row next} : Step (.write key row next) none next
  | commit {event next failed} :
      Step (.commit event next failed) (some event) next
  | commitFailed {event next failed} :
      Step (.commit event next failed) none failed
  | commitUnacknowledged {event next failed} :
      Step (.commit event next failed) (some event) failed
  | rollback {next} : Step (.rollback next) none next
  | emit {event key row next failed} :
      Step (.emit event key row next failed) (some event) next
  | emitFailed {event key row next failed} :
      Step (.emit event key row next failed) none failed
  | emitUnacknowledged {event key row next failed} :
      Step (.emit event key row next failed) (some event) failed

/-- What a session can have published, latest first, and what remains. -/
inductive Traces (first : Session Row Event Error Value) :
    List Event → Session Row Event Error Value → Prop where
  | start : Traces first [] first
  | step {events published session rest}
      (earlier : Traces first events session)
      (taken : Step session published rest) :
      Traces first (published.toList ++ events) rest

end Session

/-- The events of one session, latest first. -/
def eventsOf (owner : Nat) (log : List (Publication Row Event)) :
    List Event :=
  (log.filter fun publication => publication.owner = owner).map
    Publication.event

/-- The events of a session are a trace of its program. -/
def Traced (program : Request → Session Row Event Error Value)
    (database : Database Row Event) (owner : Nat) :
    Option (SessionTask Row Event Error Value) → Prop
  | none => eventsOf owner database.log = []
  | some (.running _ rest) => ∃ request,
      (program request).Traces (eventsOf owner database.log) rest
  | some _ => ∃ request rest,
      (program request).Traces (eventsOf owner database.log) rest

section Steps

variable {database after : Database Row Event} {owner other : Nat}

/-- The events after a session has published at most one. -/
def Extends (owner : Nat) (published : Option Event)
    (database after : Database Row Event) : Prop :=
  ∀ other, eventsOf other after.log =
    (if owner = other then published.toList else []) ++
      eventsOf other database.log

theorem Extends.own {published : Option Event}
    (extends_ : Extends owner published database after) :
    eventsOf owner after.log =
      published.toList ++ eventsOf owner database.log := by
  rw [extends_ owner, if_pos rfl]

theorem Extends.elsewhere {published : Option Event}
    (extends_ : Extends owner published database after)
    (different : other ≠ owner) :
    eventsOf other after.log = eventsOf other database.log := by
  rw [extends_ other, if_neg different.symm, List.nil_append]

variable {own : Overlay Row}
variable {session : Session Row Event Error Value}
variable {task : SessionTask Row Event Error Value}

theorem Traced.unaffected {program : Request → Session Row Event Error Value}
    {task : Option (SessionTask Row Event Error Value)}
    (traced : Traced program database other task)
    (same : eventsOf other after.log = eventsOf other database.log) :
    Traced program after other task := by
  rcases task with _ | ⟨own, rest⟩ | result | _
  · exact same.trans traced
  · obtain ⟨request, traces⟩ := traced
    exact ⟨request, same ▸ traces⟩
  · obtain ⟨request, rest, traces⟩ := traced
    exact ⟨request, rest, same ▸ traces⟩
  · obtain ⟨request, rest, traces⟩ := traced
    exact ⟨request, rest, same ▸ traces⟩

variable [DecidableEq Key]

end Steps

section Sums

/-- How much of a quantity a log has published. -/
def published (weight : Event → Nat) (log : List (Publication Row Event)) :
    Nat :=
  (log.map fun publication => weight publication.event).sum

end Sums

end Sessions

end ZaloBot
