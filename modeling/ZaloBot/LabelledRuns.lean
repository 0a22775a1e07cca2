import Mathlib

/-!
# Runs of labelled partial transition functions

A system is a partial function from a state and a label to the next state:
the label carries everything the environment decides, and `none` means that
the labelled step is not enabled.  A run is judged against a condition on the
steps it may take, so that one notion covers unrestricted runs and runs whose
every step meets a side condition.  Runs are the reflexive transitive closure
of the allowed steps; executable label lists produce them, which is how
concrete runs are exhibited.
-/

namespace ZaloBot

namespace LabelledRuns

variable {State Label : Type*}

/-- One enabled step whose label is allowed in the state it leaves. -/
def Step (step : State → Label → Option State)
    (allowed : State → Label → Prop) (before after : State) : Prop :=
  ∃ label, allowed before label ∧ step before label = some after

/-- A finite run of allowed steps. -/
def Reaches (step : State → Label → Option State)
    (allowed : State → Label → Prop) : State → State → Prop :=
  Relation.ReflTransGen (Step step allowed)

/-- The condition met by every step. -/
def anyStep : State → Label → Prop :=
  fun _ _ => True

variable {step : State → Label → Option State}
variable {allowed : State → Label → Prop}

theorem Reaches.refl (state : State) : Reaches step allowed state state :=
  Relation.ReflTransGen.refl

theorem Reaches.trans {first middle last : State}
    (before : Reaches step allowed first middle)
    (after : Reaches step allowed middle last) :
    Reaches step allowed first last :=
  Relation.ReflTransGen.trans before after

theorem Reaches.tail {first middle last : State} {label : Label}
    (before : Reaches step allowed first middle)
    (permitted : allowed middle label)
    (stepTo : step middle label = some last) :
    Reaches step allowed first last :=
  Relation.ReflTransGen.tail before ⟨label, permitted, stepTo⟩

/-- A property that every allowed step keeps holds along every run. -/
theorem Reaches.preserves {invariant : State → Prop}
    (keeps : ∀ before label after, invariant before →
      allowed before label → step before label = some after →
        invariant after)
    {first last : State} (run : Reaches step allowed first last)
    (initially : invariant first) : invariant last := by
  induction run with
  | refl => exact initially
  | tail _ edge ih =>
      obtain ⟨label, permitted, stepTo⟩ := edge
      exact keeps _ label _ ih permitted stepTo

/-- A reflexive and transitive relation that contains every allowed step out
of a state satisfying an invariant contains every run from such a state. -/
theorem Reaches.relates {invariant : State → Prop}
    {related : State → State → Prop}
    (keeps : ∀ before label after, invariant before →
      allowed before label → step before label = some after →
        invariant after)
    (reflexive : ∀ state, related state state)
    (transitive : ∀ first middle last,
      related first middle → related middle last → related first last)
    (contains : ∀ before label after, invariant before →
      allowed before label → step before label = some after →
        related before after)
    {first last : State} (run : Reaches step allowed first last)
    (initially : invariant first) : related first last := by
  induction run with
  | refl => exact reflexive _
  | tail previous edge ih =>
      have invariantMiddle := Reaches.preserves keeps previous initially
      obtain ⟨label, permitted, stepTo⟩ := edge
      exact transitive _ _ _ ih
        (contains _ label _ invariantMiddle permitted stepTo)

/-- Take the labelled steps of a list in order. -/
def runLabels (step : State → Label → Option State) :
    State → List Label → Option State
  | state, [] => some state
  | state, label :: labels =>
      (step state label).bind fun next => runLabels step next labels

/-- Every step that a label list takes is allowed. -/
def permits (step : State → Label → Option State)
    (allowed : State → Label → Prop) : State → List Label → Prop
  | _, [] => True
  | state, label :: labels =>
      allowed state label ∧
        ∀ next, step state label = some next →
          permits step allowed next labels

theorem permits_anyStep (state : State) (labels : List Label) :
    permits step anyStep state labels := by
  induction labels generalizing state with
  | nil => trivial
  | cons label labels ih => exact ⟨trivial, fun next _ => ih next⟩

/-- Every step that a label list takes passes an executable check. -/
def checks (step : State → Label → Option State)
    (check : State → Label → Bool) : State → List Label → Bool
  | _, [] => true
  | state, label :: labels =>
      check state label &&
        match step state label with
        | none => true
        | some next => checks step check next labels

theorem permits_of_checks {check : State → Label → Bool}
    (sound : ∀ state label, check state label = true → allowed state label)
    {state : State} {labels : List Label}
    (passed : checks step check state labels = true) :
    permits step allowed state labels := by
  induction labels generalizing state with
  | nil => trivial
  | cons label labels ih =>
      simp only [checks, Bool.and_eq_true] at passed
      refine ⟨sound state label passed.1, fun next stepTo => ih ?_⟩
      simpa only [stepTo] using passed.2

/-- Several conditions on every step. -/
theorem permits_forall {Index : Type}
    {allowed : Index → State → Label → Prop} {state : State}
    {labels : List Label}
    (each : ∀ index, permits step (allowed index) state labels) :
    permits step (fun state label => ∀ index, allowed index state label)
      state labels := by
  induction labels generalizing state with
  | nil => trivial
  | cons label labels ih =>
      exact ⟨fun index => (each index).1, fun next stepTo =>
        ih fun index => (each index).2 next stepTo⟩

theorem permits_and {other : State → Label → Prop} {state : State}
    {labels : List Label} (left : permits step allowed state labels)
    (right : permits step other state labels) :
    permits step (fun state label => allowed state label ∧ other state label)
      state labels := by
  induction labels generalizing state with
  | nil => trivial
  | cons label labels ih =>
      exact ⟨⟨left.1, right.1⟩, fun next stepTo =>
        ih (left.2 next stepTo) (right.2 next stepTo)⟩

theorem permits_mono {other : State → Label → Prop}
    (weaker : ∀ state label, allowed state label → other state label)
    {state : State} {labels : List Label}
    (permitted : permits step allowed state labels) :
    permits step other state labels := by
  induction labels generalizing state with
  | nil => trivial
  | cons label labels ih =>
      exact ⟨weaker state label permitted.1, fun next stepTo =>
        ih (permitted.2 next stepTo)⟩

/-- Every executable label list whose steps are allowed is a run. -/
theorem reaches_of_runLabels
    {first last : State} {labels : List Label}
    (permitted : permits step allowed first labels)
    (executed : runLabels step first labels = some last) :
    Reaches step allowed first last := by
  induction labels generalizing first with
  | nil =>
      simp only [runLabels, Option.some.injEq] at executed
      exact executed ▸ Reaches.refl first
  | cons label labels ih =>
      simp only [runLabels, Option.bind_eq_some_iff] at executed
      obtain ⟨next, stepTo, rest⟩ := executed
      exact Relation.ReflTransGen.head ⟨label, permitted.1, stepTo⟩
        (ih (permitted.2 next stepTo) rest)

end LabelledRuns

end ZaloBot
