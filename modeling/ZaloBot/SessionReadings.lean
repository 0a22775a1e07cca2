import ZaloBot.SessionRuns

/-!
# What the statements of a session see along a run

A session that has not ended yet takes its next step at some point of a run,
and what others do until then leaves it alone.  A plain read therefore sees the
rows that are committed at one point of the run, under the session's own
writes, and the session goes on from there.
-/

namespace ZaloBot

namespace Sessions

open LabelledRuns TaskPool

variable {Key : Type} {Row : Key → Type} [DecidableEq Key]
variable {Event Error Value Request : Type}
variable {program : Request → Session Row Event Error Value}
variable {first last : Pool (Database Row Event)
  (SessionTask Row Event Error Value)}
variable {owner : Nat} {own : Overlay Row}

/-- A session whose next step ends it. -/
def Session.endsWith : Session Row Event Error Value →
    Option (Except Error Value)
  | .done value => some (.ok value)
  | .fail error => some (.error error)
  | _ => none

/-- A task with only one result left, or none. -/
def LeadsTo (result : Except Error Value)
    (task : Option (SessionTask Row Event Error Value)) : Prop :=
  (∃ own rest, task = some (.running own rest) ∧
    rest.endsWith = some result) ∨
  task = some (.ended result) ∨ task = some .dropped

theorem LeadsTo.step {result : Except Error Value}
    {database after : Database Row Event}
    {task next : Option (SessionTask Row Event Error Value)}
    {label : SessionLabel Request} (leads : LeadsTo result task)
    (acted : sessionAct program database owner task label =
      some (after, next)) : LeadsTo result next := by
  rcases leads with ⟨own, rest, rfl, ends⟩ | rfl | rfl
  · cases rest with
    | done value =>
        cases ends
        cases label with
        | advance =>
            cases acted
            exact .inr (.inl rfl)
        | drop =>
            cases acted
            exact .inr (.inr rfl)
        | begin request => contradiction
        | fault => contradiction
        | loseAcknowledgement => contradiction
    | fail error =>
        cases ends
        cases label with
        | advance =>
            cases acted
            exact .inr (.inl rfl)
        | drop =>
            cases acted
            exact .inr (.inr rfl)
        | begin request => contradiction
        | fault => contradiction
        | loseAcknowledgement => contradiction
    | _ => contradiction
  · contradiction
  · contradiction

/-- A task with only one result left does not end with another. -/
theorem LeadsTo.ended {result other : Except Error Value}
    (run : SessionReaches program first last)
    (leads : LeadsTo result (first.tasks owner))
    (ends : last.tasks owner = some (.ended other)) : other = result := by
  let remains (pool : Pool (Database Row Event)
      (SessionTask Row Event Error Value)) : Prop :=
    LeadsTo result (pool.tasks owner)
  have keeps (before : Pool (Database Row Event)
        (SessionTask Row Event Error Value))
      (label : Nat × SessionLabel Request)
      (after : Pool (Database Row Event) (SessionTask Row Event Error Value))
      (holds : remains before) (_ : anyStep before label)
      (stepTo : poolStep (sessionAct program) before label = some after) :
      remains after := by
    obtain ⟨index, label⟩ := label
    obtain ⟨world, task, acted, rfl⟩ := poolStep_eq_some stepTo
    by_cases same : index = owner
    · subst same
      simpa only [remains, Function.update_self] using holds.step acted
    · simpa only [remains, Function.update_of_ne (Ne.symm same)] using holds
  have still : remains last := Reaches.preserves keeps run leads
  simp only [remains, ends] at still
  rcases still with ⟨_, _, running, _⟩ | isEnded | isDropped
  · cases running
  · cases isEnded
    rfl
  · cases isDropped

/-- A session that ends takes its next step at some point of the run. -/
theorem exists_step {rest : Session Row Event Error Value}
    {result : Except Error Value}
    (run : SessionReaches program first last)
    (begins : first.tasks owner = some (.running own rest))
    (ends : last.tasks owner = some (.ended result)) :
    ∃ middle after label task, SessionReaches program first middle ∧
      middle.tasks owner = some (.running own rest) ∧
      sessionAct program middle.world owner (some (.running own rest)) label =
        some (after, task) ∧
      SessionReaches program
        ⟨after, Function.update middle.tasks owner task⟩ last := by
  induction run using Relation.ReflTransGen.head_induction_on with
  | refl =>
      rw [begins] at ends
      cases ends
  | @head first middle edge run induction =>
      obtain ⟨⟨index, label⟩, permitted, stepTo⟩ := edge
      obtain ⟨world, task, acted, rfl⟩ := poolStep_eq_some stepTo
      by_cases same : index = owner
      · subst same
        rw [begins] at acted
        exact ⟨first, world, label, task, .refl first, begins, acted, run⟩
      · have unchanged : Function.update first.tasks index task owner =
            some (.running own rest) := by
          rw [Function.update_of_ne (Ne.symm same)]
          exact begins
        obtain ⟨later, after, ownLabel, ownTask, reaches, found, takes,
          rests⟩ := induction unchanged
        refine ⟨later, after, ownLabel, ownTask, ?_, found, takes, rests⟩
        exact Reaches.trans (Reaches.tail (.refl first) permitted stepTo)
          reaches

/-- A session that ends well after a read whose failure ends it has read the
rows committed at some point of the run. -/
theorem exists_reading {next : Store Row → Session Row Event Error Value}
    {error : Error} {value : Value}
    (run : SessionReaches program first last)
    (begins : first.tasks owner =
      some (.running own (.read next (.fail error))))
    (ends : last.tasks owner = some (.ended (.ok value))) :
    ∃ middle after, SessionReaches program first middle ∧
      SessionReaches program middle after ∧
      SessionReaches program after last ∧
      after.tasks owner =
        some (.running own (next (own.view middle.world.store))) := by
  obtain ⟨middle, world, label, task, reaches, found, acted, rests⟩ :=
    exists_step run begins ends
  have stepTo : poolStep (sessionAct program) middle (owner, label) =
      some ⟨world, Function.update middle.tasks owner task⟩ := by
    rw [poolStep, found, acted]
    rfl
  have taken : SessionReaches program middle
      ⟨world, Function.update middle.tasks owner task⟩ :=
    Reaches.tail (.refl middle) trivial stepTo
  cases label with
  | advance =>
      cases acted
      exact ⟨middle, _, reaches, taken, rests, Function.update_self _ _ _⟩
  | fault =>
      cases acted
      have failed : Except.ok value = .error error := LeadsTo.ended rests
        (.inl ⟨own, .fail error, Function.update_self _ _ _, rfl⟩) ends
      cases failed
  | drop =>
      cases acted
      have failed : Except.ok value = .error error := LeadsTo.ended rests
        (.inr (.inr (Function.update_self _ _ _))) ends
      cases failed
  | begin request => contradiction
  | loseAcknowledgement => contradiction

end Sessions

end ZaloBot
