import Mathlib

/-!
# Computations that fail between their steps

A computation changes a state step by step.  A step may fail, and then what it
has done so far remains.  The states that were passed on the way are kept, since
a computation may also be abandoned in any of them.
-/

namespace ZaloBot

namespace FallibleSteps

variable {State Error NewError Value Other : Type}

/-- What a computation has passed through: the states after its steps in order,
the last state, and its result. -/
structure Passage (State Error Value : Type) where
  passed : List State
  last : State
  result : Except Error Value

/-- A computation, from the state it starts in. -/
def Fallible (State Error Value : Type) :=
  State → Passage State Error Value

namespace Fallible

/-- Run a second computation on the result of a first one. -/
def bind (first : Fallible State Error Value)
    (rest : Value → Fallible State Error Other) :
    Fallible State Error Other :=
  fun state =>
    match first state with
    | ⟨passed, last, .error error⟩ => ⟨passed, last, .error error⟩
    | ⟨passed, last, .ok value⟩ =>
        let continued := rest value last
        ⟨passed ++ continued.passed, continued.last, continued.result⟩

instance : Monad (Fallible State Error) where
  pure value := fun state => ⟨[], state, .ok value⟩
  bind := bind

/-- Fail at once. -/
def fail (error : Error) : Fallible State Error Value :=
  fun state => ⟨[], state, .error error⟩

/-- Use a result that does not depend on the state. -/
def given (result : Except Error Value) : Fallible State Error Value :=
  fun state => ⟨[], state, result⟩

/-- Look at the state. -/
def look : Fallible State Error State :=
  fun state => ⟨[], state, .ok state⟩

/-- One step: a change of the state, which may be the trace of a failure. -/
def step (change : State → State) (failure : Option Error) :
    Fallible State Error Unit :=
  fun state =>
    ⟨[change state], change state,
      match failure with
      | none => .ok ()
      | some error => .error error⟩

/-- Report the errors of a computation under another type. -/
def mapError (report : Error → NewError)
    (computation : Fallible State Error Value) :
    Fallible State NewError Value :=
  fun state =>
    let passage := computation state
    ⟨passage.passed, passage.last, passage.result.mapError report⟩

/-- What holds of the states a computation passes through, and of its value or
its error with the state it ends in. -/
def Meets (computation : Fallible State Error Value)
    (passing : State → Prop) (ended : Value → State → Prop)
    (failed : Error → State → Prop) (state : State) : Prop :=
  (∀ reached ∈ (computation state).passed, passing reached) ∧
    match (computation state).result with
    | .ok value => ended value (computation state).last
    | .error error => failed error (computation state).last

section Rules

variable {passing : State → Prop} {ended : Value → State → Prop}
  {failed : Error → State → Prop} {state : State}

@[simp]
theorem meets_pure_iff {value : Value} :
    (pure value : Fallible State Error Value).Meets passing ended failed
      state ↔ ended value state := by
  simp [Meets, pure]

@[simp]
theorem meets_fail_iff {error : Error} :
    (fail error : Fallible State Error Value).Meets passing ended failed
      state ↔ failed error state := by
  simp [Meets, fail]

@[simp]
theorem meets_given_iff {result : Except Error Value} :
    (given result).Meets passing ended failed state ↔
      match result with
      | .ok value => ended value state
      | .error error => failed error state := by
  simp [Meets, given]

@[simp]
theorem meets_look_iff {ended : State → State → Prop} :
    look.Meets passing ended failed state ↔ ended state state := by
  simp [Meets, look]

@[simp]
theorem meets_step_iff {change : State → State} {failure : Option Error}
    {ended : Unit → State → Prop} :
    (step change failure).Meets passing ended failed state ↔
      passing (change state) ∧
        match failure with
        | none => ended () (change state)
        | some error => failed error (change state) := by
  cases failure <;> simp [Meets, step]

@[simp]
theorem meets_mapError_iff {computation : Fallible State Error Value}
    {report : Error → NewError} {failed : NewError → State → Prop} :
    (computation.mapError report).Meets passing ended failed state ↔
      computation.Meets passing ended (fun error => failed (report error))
        state := by
  unfold Meets mapError
  rcases computation state with ⟨passed, last, result⟩
  cases result <;> simp [Except.mapError]

/-- What must hold of two computations in sequence is what must hold of the
first, with what must hold of the second from where the first ended. -/
@[simp]
theorem meets_bind_iff {first : Fallible State Error Other}
    {rest : Other → Fallible State Error Value} :
    (first >>= rest).Meets passing ended failed state ↔
      first.Meets passing
        (fun value => (rest value).Meets passing ended failed) failed
        state := by
  change (bind first rest).Meets passing ended failed state ↔ _
  unfold Meets bind
  rcases first state with ⟨passed, last, result⟩
  cases result with
  | error error => simp
  | ok value =>
      simp [or_imp, forall_and, and_assoc]

end Rules

end Fallible

section Lists

/-- What it means for a computation without a state to return a value. -/
structure ReturnsRule {Computation : Type → Type} [Monad Computation]
    (returns : ∀ {Value : Type}, Computation Value → Value → Prop) :
    Prop where
  of_pure : ∀ {Value : Type} {value other : Value},
    returns (pure value : Computation Value) other → value = other
  of_bind : ∀ {Value Other : Type} {first : Computation Value}
    {rest : Value → Computation Other} {other : Other},
    returns (first >>= rest) other →
      ∃ value, returns first value ∧ returns (rest value) other

theorem returnsRule_option :
    ReturnsRule fun {Value} (computed : Option Value) value =>
      computed = some value where
  of_pure same := Option.some.inj same
  of_bind same := Option.bind_eq_some_iff.mp same

theorem returnsRule_except :
    ReturnsRule fun {Value} (computed : Except Error Value) value =>
      computed = .ok value where
  of_pure same := Except.ok.inj same
  of_bind {_ _ first _ _} same := by
    cases first with
    | error error => cases same
    | ok value => exact ⟨value, rfl, same⟩

variable {Computation : Type → Type} [Monad Computation]
  [LawfulMonad Computation]
  {returns : ∀ {Value : Type}, Computation Value → Value → Prop}
  {Source Target : Type} {run : Source → Computation Target}

/-- A list is mapped element by element. -/
theorem ReturnsRule.forall₂_of_mapM (rule : ReturnsRule returns)
    {sources : List Source} {targets : List Target}
    (mapped : returns (sources.mapM run) targets) :
    List.Forall₂ (fun source target => returns (run source) target) sources
      targets := by
  induction sources generalizing targets with
  | nil =>
      rw [List.mapM_nil] at mapped
      rw [← rule.of_pure mapped]
      exact .nil
  | cons source sources ih =>
      rw [List.mapM_cons] at mapped
      obtain ⟨target, isTarget, mapped⟩ := rule.of_bind mapped
      obtain ⟨others, areOthers, mapped⟩ := rule.of_bind mapped
      rw [← rule.of_pure mapped]
      exact .cons isTarget (ih areOthers)

/-- What is mapped comes from one of the sources. -/
theorem ReturnsRule.exists_of_mem_targets (rule : ReturnsRule returns)
    {sources : List Source} {targets : List Target}
    (mapped : returns (sources.mapM run) targets) {target : Target}
    (member : target ∈ targets) :
    ∃ source ∈ sources, returns (run source) target := by
  have related := rule.forall₂_of_mapM mapped
  clear mapped
  induction related with
  | nil => contradiction
  | cons isTarget _ ih =>
      rcases List.mem_cons.mp member with rfl | later
      · exact ⟨_, List.mem_cons_self, isTarget⟩
      · obtain ⟨source, isSource, found⟩ := ih later
        exact ⟨source, List.mem_cons_of_mem _ isSource, found⟩

/-- Every source is mapped. -/
theorem ReturnsRule.exists_of_mem_sources (rule : ReturnsRule returns)
    {sources : List Source} {targets : List Target}
    (mapped : returns (sources.mapM run) targets) {source : Source}
    (member : source ∈ sources) :
    ∃ target ∈ targets, returns (run source) target := by
  have related := rule.forall₂_of_mapM mapped
  clear mapped
  induction related with
  | nil => contradiction
  | cons isTarget _ ih =>
      rcases List.mem_cons.mp member with rfl | later
      · exact ⟨_, List.mem_cons_self, isTarget⟩
      · obtain ⟨target, isTarget, found⟩ := ih later
        exact ⟨target, List.mem_cons_of_mem _ isTarget, found⟩

end Lists

end FallibleSteps

end ZaloBot
