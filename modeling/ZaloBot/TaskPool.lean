import Mathlib.Logic.Function.Basic
import ZaloBot.LabelledRuns

/-!
# Concurrent tasks over a shared world

Any number of tasks share a world.  One action reads the world and the task of
one index and changes both; starting a task, ending it and acting without one
are actions as well.  An invariant of such a pool is a property of the world
together with a property of each task in the world.  The rule of this module
asks of each action that it keeps the world's property and its own task's,
and that it does not invalidate the property of any other task.
-/

namespace ZaloBot

namespace TaskPool

open LabelledRuns

variable {World Task Label : Type*}

/-- A world and the tasks running in it. -/
structure Pool (World Task : Type*) where
  world : World
  tasks : Nat → Option Task

/-- A world in which nothing runs. -/
def Pool.idle (world : World) : Pool World Task :=
  ⟨world, fun _ => none⟩

/-- Let the task of one index act. -/
def poolStep
    (act : World → Nat → Option Task → Label → Option (World × Option Task))
    (pool : Pool World Task) (label : Nat × Label) :
    Option (Pool World Task) :=
  (act pool.world label.1 (pool.tasks label.1) label.2).map
    fun (world, task) =>
      ⟨world, Function.update pool.tasks label.1 task⟩

/-- A property of the world and one of every task. -/
structure Holds (shared : World → Prop)
    (own : World → Nat → Option Task → Prop) (pool : Pool World Task) :
    Prop where
  shared : shared pool.world
  own : ∀ index, own pool.world index (pool.tasks index)

variable
  {act : World → Nat → Option Task → Label → Option (World × Option Task)}
variable {allowed : Pool World Task → Nat × Label → Prop}
variable {shared : World → Prop} {own : World → Nat → Option Task → Prop}

/-- What a step of a pool does. -/
theorem poolStep_eq_some {pool next : Pool World Task} {index : Nat}
    {label : Label} (stepTo : poolStep act pool (index, label) = some next) :
    ∃ world task,
      act pool.world index (pool.tasks index) label = some (world, task) ∧
        next = ⟨world, Function.update pool.tasks index task⟩ := by
  obtain ⟨⟨world, task⟩, acted, rfl⟩ := Option.map_eq_some_iff.mp stepTo
  exact ⟨world, task, acted, rfl⟩

/-- Noninterference: an action that keeps the shared property, its own task's
property and every other task's property keeps the invariant of the pool. -/
theorem Holds.step
    (keeps : ∀ (pool : Pool World Task) index label world task,
      Holds shared own pool → allowed pool (index, label) →
      act pool.world index (pool.tasks index) label = some (world, task) →
        shared world ∧ own world index task ∧
          ∀ other, other ≠ index → own world other (pool.tasks other))
    {pool next : Pool World Task} {label : Nat × Label}
    (holds : Holds shared own pool) (permitted : allowed pool label)
    (stepTo : poolStep act pool label = some next) :
    Holds shared own next := by
  obtain ⟨index, label⟩ := label
  obtain ⟨world, task, acted, rfl⟩ := poolStep_eq_some stepTo
  obtain ⟨sharedAfter, ownAfter, othersAfter⟩ :=
    keeps pool index label world task holds permitted acted
  refine ⟨sharedAfter, fun other => ?_⟩
  by_cases same : other = index
  · subst same
    simpa only [Function.update_self] using ownAfter
  · simpa only [Function.update_of_ne same] using othersAfter other same

/-- The invariant of a pool holds along every run. -/
theorem Holds.reaches
    (keeps : ∀ (pool : Pool World Task) index label world task,
      Holds shared own pool → allowed pool (index, label) →
      act pool.world index (pool.tasks index) label = some (world, task) →
        shared world ∧ own world index task ∧
          ∀ other, other ≠ index → own world other (pool.tasks other))
    {first last : Pool World Task}
    (run : Reaches (poolStep act) allowed first last)
    (holds : Holds shared own first) : Holds shared own last :=
  Reaches.preserves
    (fun _ _ _ before permitted stepTo =>
      Holds.step keeps before permitted stepTo) run holds

end TaskPool

end ZaloBot
