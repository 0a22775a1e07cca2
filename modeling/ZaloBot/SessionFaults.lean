import ZaloBot.SessionEvents

/-!
# Sessions whose reads fail

A session that runs alone, with a pattern of failures for its reads and locks.
Every read carries the place where it stands in the code, so that a run can
tell which reads have failed.  A session reports its failed reads if each of
them ends it with an error.
-/

namespace ZaloBot

namespace Sessions

/-- A session whose reads and locks carry their place. -/
inductive Placed {Key : Type} (Place : Type) (Row : Key → Type)
    (Event Error Value : Type) : Type where
  | done (value : Value)
  | fail (error : Error)
  | read (place : Place)
      (next : Store Row → Placed Place Row Event Error Value)
      (failed : Placed Place Row Event Error Value)
  | lock (place : Place) (mode : LockMode) (key : Key)
      (wanted : Option (Row key) → Bool)
      (next : Option (Row key) → Placed Place Row Event Error Value)
      (failed : Placed Place Row Event Error Value)
  | write (key : Key) (row : Option (Row key))
      (next : Placed Place Row Event Error Value)
  | commit (event : Event) (next failed : Placed Place Row Event Error Value)
  | rollback (next : Placed Place Row Event Error Value)
  | emit (event : Event) (key : Key) (row : Option (Row key))
      (next failed : Placed Place Row Event Error Value)

variable {Key : Type} {Row : Key → Type}
variable {Place Event NewEvent Error Value Other : Type}

/-- All reads of a session stand at one place. -/
def Session.placed (place : Place) :
    Session Row Event Error Value → Placed Place Row Event Error Value
  | .done value => .done value
  | .fail error => .fail error
  | .read next failed =>
      .read place (fun view => (next view).placed place) (failed.placed place)
  | .lock mode key wanted next failed =>
      .lock place mode key wanted (fun row => (next row).placed place)
        (failed.placed place)
  | .write key row next => .write key row (next.placed place)
  | .commit event next failed =>
      .commit event (next.placed place) (failed.placed place)
  | .rollback next => .rollback (next.placed place)
  | .emit event key row next failed =>
      .emit event key row (next.placed place) (failed.placed place)

namespace Placed

/-- The session without the places. -/
def forget :
    Placed Place Row Event Error Value → Session Row Event Error Value
  | .done value => .done value
  | .fail error => .fail error
  | .read _ next failed => .read (fun view => (next view).forget) failed.forget
  | .lock _ mode key wanted next failed =>
      .lock mode key wanted (fun row => (next row).forget) failed.forget
  | .write key row next => .write key row next.forget
  | .commit event next failed => .commit event next.forget failed.forget
  | .rollback next => .rollback next.forget
  | .emit event key row next failed =>
      .emit event key row next.forget failed.forget

def bind (first : Placed Place Row Event Error Value)
    (rest : Value → Placed Place Row Event Error Other) :
    Placed Place Row Event Error Other :=
  match first with
  | .done value => rest value
  | .fail error => .fail error
  | .read place next failed =>
      .read place (fun view => (next view).bind rest) (failed.bind rest)
  | .lock place mode key wanted next failed =>
      .lock place mode key wanted (fun row => (next row).bind rest)
        (failed.bind rest)
  | .write key row next => .write key row (next.bind rest)
  | .commit event next failed =>
      .commit event (next.bind rest) (failed.bind rest)
  | .rollback next => .rollback (next.bind rest)
  | .emit event key row next failed =>
      .emit event key row (next.bind rest) (failed.bind rest)

instance : Monad (Placed Place Row Event Error) where
  pure := .done
  bind := bind

def attempt (session : Placed Place Row Event Error Value) :
    Placed Place Row Event Error (Except Error Value) :=
  match session with
  | .done value => .done (.ok value)
  | .fail error => .rollback (.done (.error error))
  | .read place next failed =>
      .read place (fun view => (next view).attempt) failed.attempt
  | .lock place mode key wanted next failed =>
      .lock place mode key wanted (fun row => (next row).attempt)
        failed.attempt
  | .write key row next => .write key row next.attempt
  | .commit event next failed => .commit event next.attempt failed.attempt
  | .rollback next => .rollback next.attempt
  | .emit event key row next failed =>
      .emit event key row next.attempt failed.attempt

def mapEvent (rename : Event → NewEvent)
    (session : Placed Place Row Event Error Value) :
    Placed Place Row NewEvent Error Value :=
  match session with
  | .done value => .done value
  | .fail error => .fail error
  | .read place next failed =>
      .read place (fun view => (next view).mapEvent rename)
        (failed.mapEvent rename)
  | .lock place mode key wanted next failed =>
      .lock place mode key wanted (fun row => (next row).mapEvent rename)
        (failed.mapEvent rename)
  | .write key row next => .write key row (next.mapEvent rename)
  | .commit event next failed =>
      .commit (rename event) (next.mapEvent rename) (failed.mapEvent rename)
  | .rollback next => .rollback (next.mapEvent rename)
  | .emit event key row next failed =>
      .emit (rename event) key row (next.mapEvent rename)
        (failed.mapEvent rename)

section Forgetting

@[simp]
theorem forget_placed {place : Place}
    {session : Session Row Event Error Value} :
    (session.placed place).forget = session := by
  induction session with
  | done value => rfl
  | fail error => rfl
  | read next failed ihNext ihFailed =>
      simp only [Session.placed, forget, ihNext, ihFailed]
  | lock mode key wanted next failed ihNext ihFailed =>
      simp only [Session.placed, forget, ihNext, ihFailed]
  | write key row next ihNext => simp only [Session.placed, forget, ihNext]
  | commit event next failed ihNext ihFailed =>
      simp only [Session.placed, forget, ihNext, ihFailed]
  | rollback next ihNext => simp only [Session.placed, forget, ihNext]
  | emit event key row next failed ihNext ihFailed =>
      simp only [Session.placed, forget, ihNext, ihFailed]

@[simp]
theorem forget_pure {value : Value} :
    (pure value : Placed Place Row Event Error Value).forget = pure value :=
  rfl

@[simp]
theorem forget_bind {first : Placed Place Row Event Error Value}
    {rest : Value → Placed Place Row Event Error Other} :
    (first >>= rest).forget =
      first.forget >>= fun value => (rest value).forget := by
  change (first.bind rest).forget =
    first.forget.bind fun value => (rest value).forget
  induction first with
  | done value => rfl
  | fail error => rfl
  | read place next failed ihNext ihFailed =>
      simp only [bind, forget, Session.bind, ihNext, ihFailed]
  | lock place mode key wanted next failed ihNext ihFailed =>
      simp only [bind, forget, Session.bind, ihNext, ihFailed]
  | write key row next ihNext =>
      simp only [bind, forget, Session.bind, ihNext]
  | commit event next failed ihNext ihFailed =>
      simp only [bind, forget, Session.bind, ihNext, ihFailed]
  | rollback next ihNext => simp only [bind, forget, Session.bind, ihNext]
  | emit event key row next failed ihNext ihFailed =>
      simp only [bind, forget, Session.bind, ihNext, ihFailed]

@[simp]
theorem forget_attempt {session : Placed Place Row Event Error Value} :
    session.attempt.forget = session.forget.attempt := by
  induction session with
  | done value => rfl
  | fail error => rfl
  | read place next failed ihNext ihFailed =>
      simp only [attempt, forget, Session.attempt, ihNext, ihFailed]
  | lock place mode key wanted next failed ihNext ihFailed =>
      simp only [attempt, forget, Session.attempt, ihNext, ihFailed]
  | write key row next ihNext =>
      simp only [attempt, forget, Session.attempt, ihNext]
  | commit event next failed ihNext ihFailed =>
      simp only [attempt, forget, Session.attempt, ihNext, ihFailed]
  | rollback next ihNext =>
      simp only [attempt, forget, Session.attempt, ihNext]
  | emit event key row next failed ihNext ihFailed =>
      simp only [attempt, forget, Session.attempt, ihNext, ihFailed]

@[simp]
theorem forget_mapEvent {rename : Event → NewEvent}
    {session : Placed Place Row Event Error Value} :
    (session.mapEvent rename).forget = session.forget.mapEvent rename := by
  induction session with
  | done value => rfl
  | fail error => rfl
  | read place next failed ihNext ihFailed =>
      simp only [mapEvent, forget, Session.mapEvent, ihNext, ihFailed]
  | lock place mode key wanted next failed ihNext ihFailed =>
      simp only [mapEvent, forget, Session.mapEvent, ihNext, ihFailed]
  | write key row next ihNext =>
      simp only [mapEvent, forget, Session.mapEvent, ihNext]
  | commit event next failed ihNext ihFailed =>
      simp only [mapEvent, forget, Session.mapEvent, ihNext, ihFailed]
  | rollback next ihNext =>
      simp only [mapEvent, forget, Session.mapEvent, ihNext]
  | emit event key row next failed ihNext ihFailed =>
      simp only [mapEvent, forget, Session.mapEvent, ihNext, ihFailed]

end Forgetting

section Placing

variable {place : Place} {session : Session Row Event Error Value}

theorem placed_bind {rest : Value → Session Row Event Error Other} :
    (session >>= rest).placed place =
      session.placed place >>= fun value => (rest value).placed place := by
  change (session.bind rest).placed place =
    (session.placed place).bind fun value => (rest value).placed place
  induction session with
  | done value => rfl
  | fail error => rfl
  | read next failed ihNext ihFailed =>
      simp only [Session.bind, Session.placed, bind, ihNext, ihFailed]
  | lock mode key wanted next failed ihNext ihFailed =>
      simp only [Session.bind, Session.placed, bind, ihNext, ihFailed]
  | write key row next ihNext =>
      simp only [Session.bind, Session.placed, bind, ihNext]
  | commit event next failed ihNext ihFailed =>
      simp only [Session.bind, Session.placed, bind, ihNext, ihFailed]
  | rollback next ihNext =>
      simp only [Session.bind, Session.placed, bind, ihNext]
  | emit event key row next failed ihNext ihFailed =>
      simp only [Session.bind, Session.placed, bind, ihNext, ihFailed]

theorem placed_attempt :
    session.attempt.placed place = (session.placed place).attempt := by
  induction session with
  | done value => rfl
  | fail error => rfl
  | read next failed ihNext ihFailed =>
      simp only [Session.attempt, Session.placed, attempt, ihNext, ihFailed]
  | lock mode key wanted next failed ihNext ihFailed =>
      simp only [Session.attempt, Session.placed, attempt, ihNext, ihFailed]
  | write key row next ihNext =>
      simp only [Session.attempt, Session.placed, attempt, ihNext]
  | commit event next failed ihNext ihFailed =>
      simp only [Session.attempt, Session.placed, attempt, ihNext, ihFailed]
  | rollback next ihNext =>
      simp only [Session.attempt, Session.placed, attempt, ihNext]
  | emit event key row next failed ihNext ihFailed =>
      simp only [Session.attempt, Session.placed, attempt, ihNext, ihFailed]

theorem placed_mapEvent {rename : Event → NewEvent} :
    (session.mapEvent rename).placed place =
      (session.placed place).mapEvent rename := by
  induction session with
  | done value => rfl
  | fail error => rfl
  | read next failed ihNext ihFailed =>
      simp only [Session.mapEvent, Session.placed, mapEvent, ihNext, ihFailed]
  | lock mode key wanted next failed ihNext ihFailed =>
      simp only [Session.mapEvent, Session.placed, mapEvent, ihNext, ihFailed]
  | write key row next ihNext =>
      simp only [Session.mapEvent, Session.placed, mapEvent, ihNext]
  | commit event next failed ihNext ihFailed =>
      simp only [Session.mapEvent, Session.placed, mapEvent, ihNext, ihFailed]
  | rollback next ihNext =>
      simp only [Session.mapEvent, Session.placed, mapEvent, ihNext]
  | emit event key row next failed ihNext ihFailed =>
      simp only [Session.mapEvent, Session.placed, mapEvent, ihNext, ihFailed]

end Placing

/-- How a session has ended, with the failures that are left of the pattern
and the places of the reads that have failed. -/
structure Evaluation (Place : Type) (Row : Key → Type)
    (Error Value : Type) where
  outcome : Except Error Value
  own : Overlay Row
  store : Store Row
  faults : List Bool
  failures : List Place

section Evaluating

variable [DecidableEq Key]

/-- One more failed read. -/
def Evaluation.failing (place : Place)
    (evaluation : Evaluation Place Row Error Value) :
    Evaluation Place Row Error Value :=
  { evaluation with failures := place :: evaluation.failures }

/-- Run a session alone; the pattern says which of its reads and locks
fail. -/
def evaluate (session : Placed Place Row Event Error Value)
    (own : Overlay Row) (store : Store Row) (faults : List Bool) :
    Evaluation Place Row Error Value :=
  match session with
  | .done value => ⟨.ok value, own, store, faults, []⟩
  | .fail error => ⟨.error error, own, store, faults, []⟩
  | .read place next failed =>
      if faults.headD false then
        (failed.evaluate own store faults.tail).failing place
      else
        (next (own.view store)).evaluate own store faults.tail
  | .lock place _ key _ next failed =>
      if faults.headD false then
        (failed.evaluate own store faults.tail).failing place
      else
        (next (own.view store key)).evaluate own store faults.tail
  | .write key row next => next.evaluate (own.set key row) store faults
  | .commit _ next _ => next.evaluate Overlay.none (own.view store) faults
  | .rollback next => next.evaluate Overlay.none store faults
  | .emit _ key row next _ =>
      next.evaluate own (Function.update store key row) faults

/-- What holds at the end of every evaluation whose failed reads all stand at
certain places; `failed` says whether a read has failed. -/
def holds (allowed : Place → Prop)
    (session : Placed Place Row Event Error Value) (failed : Bool)
    (own : Overlay Row) (store : Store Row)
    (post : Except Error Value → Bool → Overlay Row → Store Row → Prop) :
    Prop :=
  match session with
  | .done value => post (.ok value) failed own store
  | .fail error => post (.error error) failed own store
  | .read place next whenFailed =>
      (next (own.view store)).holds allowed failed own store post ∧
        (allowed place → whenFailed.holds allowed true own store post)
  | .lock place _ key _ next whenFailed =>
      (next (own.view store key)).holds allowed failed own store post ∧
        (allowed place → whenFailed.holds allowed true own store post)
  | .write key row next =>
      next.holds allowed failed (own.set key row) store post
  | .commit _ next _ =>
      next.holds allowed failed Overlay.none (own.view store) post
  | .rollback next => next.holds allowed failed Overlay.none store post
  | .emit _ key row next _ =>
      next.holds allowed failed own (Function.update store key row) post

variable {allowed : Place → Prop} {failed : Bool}
variable {own : Overlay Row} {store : Store Row}

theorem holds_mono {session : Placed Place Row Event Error Value}
    {post weaker : Except Error Value → Bool → Overlay Row → Store Row → Prop}
    (verified : session.holds allowed failed own store post)
    (implies : ∀ outcome failed own store, post outcome failed own store →
      weaker outcome failed own store) :
    session.holds allowed failed own store weaker := by
  induction session generalizing failed own store with
  | done value => exact implies _ _ _ _ verified
  | fail error => exact implies _ _ _ _ verified
  | read place next whenFailed ihNext ihFailed =>
      exact ⟨ihNext _ verified.1, fun may => ihFailed (verified.2 may)⟩
  | lock place mode key wanted next whenFailed ihNext ihFailed =>
      exact ⟨ihNext _ verified.1, fun may => ihFailed (verified.2 may)⟩
  | write key row next ihNext => exact ihNext verified
  | commit event next whenFailed ihNext ihFailed => exact ihNext verified
  | rollback next ihNext => exact ihNext verified
  | emit event key row next whenFailed ihNext ihFailed =>
      exact ihNext verified

/-- Verify the parts of a session one after the other. -/
theorem holds_bind {first : Placed Place Row Event Error Value}
    {rest : Value → Placed Place Row Event Error Other}
    {post : Except Error Other → Bool → Overlay Row → Store Row → Prop}
    (verified : first.holds allowed failed own store
      fun outcome failed own store =>
        match outcome with
        | .ok value => (rest value).holds allowed failed own store post
        | .error error => post (.error error) failed own store) :
    (first >>= rest).holds allowed failed own store post := by
  change (first.bind rest).holds allowed failed own store post
  induction first generalizing failed own store with
  | done value => exact verified
  | fail error => exact verified
  | read place next whenFailed ihNext ihFailed =>
      exact ⟨ihNext _ verified.1, fun may => ihFailed (verified.2 may)⟩
  | lock place mode key wanted next whenFailed ihNext ihFailed =>
      exact ⟨ihNext _ verified.1, fun may => ihFailed (verified.2 may)⟩
  | write key row next ihNext => exact ihNext verified
  | commit event next whenFailed ihNext ihFailed => exact ihNext verified
  | rollback next ihNext => exact ihNext verified
  | emit event key row next whenFailed ihNext ihFailed =>
      exact ihNext verified

/-- What is left of a transaction after an attempt. -/
def attempted (own : Overlay Row) : Except Error Value → Overlay Row
  | .ok _ => own
  | .error _ => Overlay.none

theorem holds_attempt {session : Placed Place Row Event Error Value}
    {post : Except Error (Except Error Value) → Bool → Overlay Row →
      Store Row → Prop}
    (verified : session.holds allowed failed own store
      fun outcome failed own store =>
        post (.ok outcome) failed (attempted own outcome) store) :
    session.attempt.holds allowed failed own store post := by
  induction session generalizing failed own store with
  | done value => exact verified
  | fail error => exact verified
  | read place next whenFailed ihNext ihFailed =>
      exact ⟨ihNext _ verified.1, fun may => ihFailed (verified.2 may)⟩
  | lock place mode key wanted next whenFailed ihNext ihFailed =>
      exact ⟨ihNext _ verified.1, fun may => ihFailed (verified.2 may)⟩
  | write key row next ihNext => exact ihNext verified
  | commit event next whenFailed ihNext ihFailed => exact ihNext verified
  | rollback next ihNext => exact ihNext verified
  | emit event key row next whenFailed ihNext ihFailed =>
      exact ihNext verified

theorem holds_mapEvent {rename : Event → NewEvent}
    {session : Placed Place Row Event Error Value}
    {post : Except Error Value → Bool → Overlay Row → Store Row → Prop}
    (verified : session.holds allowed failed own store post) :
    (session.mapEvent rename).holds allowed failed own store post := by
  induction session generalizing failed own store with
  | done value => exact verified
  | fail error => exact verified
  | read place next whenFailed ihNext ihFailed =>
      exact ⟨ihNext _ verified.1, fun may => ihFailed (verified.2 may)⟩
  | lock place mode key wanted next whenFailed ihNext ihFailed =>
      exact ⟨ihNext _ verified.1, fun may => ihFailed (verified.2 may)⟩
  | write key row next ihNext => exact ihNext verified
  | commit event next whenFailed ihNext ihFailed => exact ihNext verified
  | rollback next ihNext => exact ihNext verified
  | emit event key row next whenFailed ihNext ihFailed =>
      exact ihNext verified

/-- Every evaluation ends as it has been verified. -/
theorem holds_evaluate {session : Placed Place Row Event Error Value}
    {faults : List Bool}
    {post : Except Error Value → Bool → Overlay Row → Store Row → Prop}
    (verified : session.holds allowed failed own store post)
    (only : ∀ place ∈ (session.evaluate own store faults).failures,
      allowed place) :
    let evaluation := session.evaluate own store faults
    post evaluation.outcome (failed || !evaluation.failures.isEmpty)
      evaluation.own evaluation.store := by
  induction session generalizing failed own store faults with
  | done value => simpa [evaluate, holds] using verified
  | fail error => simpa [evaluate, holds] using verified
  | read place next whenFailed ihNext ihFailed =>
      simp only [evaluate] at only ⊢
      split at only
      · rename_i faulted
        simp only [faulted, if_true, Evaluation.failing] at only ⊢
        have atPlace := only place (by simp)
        have rest := ihFailed (verified.2 atPlace)
          fun other failure => only other (List.mem_cons_of_mem _ failure)
        simpa using rest
      · rename_i unharmed
        simp only [unharmed] at only ⊢
        exact ihNext _ verified.1 only
  | lock place mode key wanted next whenFailed ihNext ihFailed =>
      simp only [evaluate] at only ⊢
      split at only
      · rename_i faulted
        simp only [faulted, if_true, Evaluation.failing] at only ⊢
        have atPlace := only place (by simp)
        have rest := ihFailed (verified.2 atPlace)
          fun other failure => only other (List.mem_cons_of_mem _ failure)
        simpa using rest
      · rename_i unharmed
        simp only [unharmed] at only ⊢
        exact ihNext _ verified.1 only
  | write key row next ihNext => exact ihNext verified only
  | commit event next whenFailed ihNext ihFailed => exact ihNext verified only
  | rollback next ihNext => exact ihNext verified only
  | emit event key row next whenFailed ihNext ihFailed =>
      exact ihNext verified only

/-- Reads whose failures are not allowed do not fail. -/
theorem holds_placed_reliable {place : Place}
    {session : Session Row Event Error Value}
    {post : Except Error Value → Bool → Overlay Row → Store Row → Prop}
    (reliable : ¬ allowed place)
    (verified : ∀ outcome own store, post outcome failed own store) :
    (session.placed place).holds allowed failed own store post := by
  induction session generalizing own store with
  | done value => exact verified _ _ _
  | fail error => exact verified _ _ _
  | read next whenFailed ihNext ihFailed =>
      exact ⟨ihNext _, fun may => absurd may reliable⟩
  | lock mode key wanted next whenFailed ihNext ihFailed =>
      exact ⟨ihNext _, fun may => absurd may reliable⟩
  | write key row next ihNext => exact ihNext
  | commit event next whenFailed ihNext ihFailed => exact ihNext
  | rollback next ihNext => exact ihNext
  | emit event key row next whenFailed ihNext ihFailed => exact ihNext

theorem holds_query {place : Place} {error : Error}
    {ask : Store Row → Value} {rest : Value → Session Row Event Error Other}
    {post : Except Error Other → Bool → Overlay Row → Store Row → Prop}
    (answered : ((rest (ask (own.view store))).placed place).holds allowed
      failed own store post)
    (reported : post (.error error) true own store) :
    ((Session.query error ask >>= rest).placed place).holds allowed failed own
      store post :=
  ⟨answered, fun _ => reported⟩

theorem holds_upsertRow {place : Place} {error : Error} {key : Key}
    {fresh : Row key} {change : Row key → Row key}
    {rest : Unit → Session Row Event Error Other}
    {post : Except Error Other → Bool → Overlay Row → Store Row → Prop}
    (written : ∀ row, ((rest ()).placed place).holds allowed failed
      (own.set key row) store post)
    (reported : post (.error error) true own store) :
    ((Session.upsertRow error key fresh change >>= rest).placed place).holds
      allowed failed own store post :=
  ⟨written _, fun _ => reported⟩

theorem holds_commitTransaction {place : Place} (error : Error)
    (event : Event) {rest : Unit → Session Row Event Error Other}
    {post : Except Error Other → Bool → Overlay Row → Store Row → Prop}
    (committed : ((rest ()).placed place).holds allowed failed Overlay.none
      (own.view store) post) :
    ((Session.commitTransaction error event >>= rest).placed place).holds
      allowed failed own store post :=
  committed

end Evaluating

end Placed

namespace Session

/-- Every failed read ends the session with an error of a certain kind. -/
def Reports (transient : Error → Prop) :
    Session Row Event Error Value → Prop
  | .done _ => True
  | .fail _ => True
  | .read next failed =>
      (∀ view, (next view).Reports transient) ∧
        ∃ error, failed = .fail error ∧ transient error
  | .lock _ _ _ next failed =>
      (∀ row, (next row).Reports transient) ∧
        ∃ error, failed = .fail error ∧ transient error
  | .write _ _ next => next.Reports transient
  | .commit _ next _ => next.Reports transient
  | .rollback next => next.Reports transient
  | .emit _ _ _ next _ => next.Reports transient

variable {transient : Error → Prop}

namespace Reports

theorem bind {first : Session Row Event Error Value}
    {rest : Value → Session Row Event Error Other}
    (firstReports : first.Reports transient)
    (restReports : ∀ value, (rest value).Reports transient) :
    (first >>= rest).Reports transient := by
  change (first.bind rest).Reports transient
  induction first with
  | done value => exact restReports value
  | fail error => trivial
  | read next failed ihNext ihFailed =>
      obtain ⟨reports, error, rfl, isTransient⟩ := firstReports
      exact ⟨fun view => ihNext view (reports view), error, rfl, isTransient⟩
  | lock mode key wanted next failed ihNext ihFailed =>
      obtain ⟨reports, error, rfl, isTransient⟩ := firstReports
      exact ⟨fun row => ihNext row (reports row), error, rfl, isTransient⟩
  | write key row next ihNext => exact ihNext firstReports
  | commit event next failed ihNext ihFailed => exact ihNext firstReports
  | rollback next ihNext => exact ihNext firstReports
  | emit event key row next failed ihNext ihFailed =>
      exact ihNext firstReports

theorem mapEvent {rename : Event → NewEvent}
    {session : Session Row Event Error Value}
    (reports : session.Reports transient) :
    (session.mapEvent rename).Reports transient := by
  induction session with
  | done value => trivial
  | fail error => trivial
  | read next failed ihNext ihFailed =>
      obtain ⟨reports, error, rfl, isTransient⟩ := reports
      exact ⟨fun view => ihNext view (reports view), error, rfl, isTransient⟩
  | lock mode key wanted next failed ihNext ihFailed =>
      obtain ⟨reports, error, rfl, isTransient⟩ := reports
      exact ⟨fun row => ihNext row (reports row), error, rfl, isTransient⟩
  | write key row next ihNext => exact ihNext reports
  | commit event next failed ihNext ihFailed => exact ihNext reports
  | rollback next ihNext => exact ihNext reports
  | emit event key row next failed ihNext ihFailed => exact ihNext reports

theorem mapError {NewError : Type} {report : Error → NewError}
    {isReported : NewError → Prop}
    {session : Session Row Event Error Value}
    (reports : session.Reports transient)
    (implies : ∀ error, transient error → isReported (report error)) :
    (session.mapError report).Reports isReported := by
  induction session with
  | done value => trivial
  | fail error => trivial
  | read next failed ihNext ihFailed =>
      obtain ⟨reports, error, rfl, isTransient⟩ := reports
      exact ⟨fun view => ihNext view (reports view), report error, rfl,
        implies error isTransient⟩
  | lock mode key wanted next failed ihNext ihFailed =>
      obtain ⟨reports, error, rfl, isTransient⟩ := reports
      exact ⟨fun row => ihNext row (reports row), report error, rfl,
        implies error isTransient⟩
  | write key row next ihNext => exact ihNext reports
  | commit event next failed ihNext ihFailed => exact ihNext reports
  | rollback next ihNext => exact ihNext reports
  | emit event key row next failed ihNext ihFailed => exact ihNext reports

end Reports

theorem reports_query {error : Error} {ask : Store Row → Value}
    (isTransient : transient error) :
    (query error ask : Session Row Event Error Value).Reports transient :=
  ⟨fun _ => trivial, error, rfl, isTransient⟩

theorem reports_selectForUpdate {error : Error} {key : Key}
    {condition : Row key → Bool} (isTransient : transient error) :
    (selectForUpdate error key condition :
      Session Row Event Error _).Reports transient :=
  ⟨fun _ => trivial, error, rfl, isTransient⟩

theorem reports_updateRow {error : Error} {key : Key}
    {condition : Row key → Bool} {change : Row key → Row key}
    (isTransient : transient error) :
    (updateRow error key condition change :
      Session Row Event Error _).Reports transient := by
  refine ⟨fun row => ?_, error, rfl, isTransient⟩
  dsimp only
  cases row.filter condition <;> trivial

theorem reports_insertRow {error : Error} {key : Key} {row : Row key}
    (isTransient : transient error) :
    (insertRow error key row : Session Row Event Error _).Reports
      transient := by
  refine ⟨fun existing => ?_, error, rfl, isTransient⟩
  cases existing <;> trivial

theorem reports_upsertRow {error : Error} {key : Key} {fresh : Row key}
    {change : Row key → Row key} (isTransient : transient error) :
    (upsertRow error key fresh change :
      Session Row Event Error _).Reports transient :=
  ⟨fun _ => trivial, error, rfl, isTransient⟩

/-- What is known about the end of a session that reports its failed reads. -/
theorem Reports.holds [DecidableEq Key] {allowed : Place → Prop}
    {place : Place} {session : Session Row Event Error Value}
    {own : Overlay Row} {store : Store Row}
    {post : Except Error Value → Bool → Overlay Row → Store Row → Prop}
    (reports : session.Reports transient)
    (succeeded : ∀ outcome own store, post outcome false own store)
    (reported : ∀ error own store, transient error →
      post (.error error) true own store) :
    (session.placed place).holds allowed false own store post := by
  induction session generalizing own store with
  | done value => exact succeeded _ _ _
  | fail error => exact succeeded _ _ _
  | read next failed ihNext ihFailed =>
      obtain ⟨reports, error, rfl, isTransient⟩ := reports
      exact ⟨ihNext _ (reports _), fun _ => reported _ _ _ isTransient⟩
  | lock mode key wanted next failed ihNext ihFailed =>
      obtain ⟨reports, error, rfl, isTransient⟩ := reports
      exact ⟨ihNext _ (reports _), fun _ => reported _ _ _ isTransient⟩
  | write key row next ihNext => exact ihNext reports
  | commit event next failed ihNext ihFailed => exact ihNext reports
  | rollback next ihNext => exact ihNext reports
  | emit event key row next failed ihNext ihFailed => exact ihNext reports

end Session

end Sessions

end ZaloBot
