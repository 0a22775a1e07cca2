import ZaloBot.SessionRules

/-!
# Frames and outcomes of sessions

A part of a transaction that writes only certain rows leaves all others
alone.  A session that returns a value only after its single commit has
published exactly once when it ends well, and not at all when it ends in an
error, provided that commits are acknowledged.
-/

namespace ZaloBot

namespace Sessions

open LabelledRuns TaskPool

variable {Key : Type} {Row : Key → Type}
variable {Event Error Value Other Request : Type}

namespace Session

/-- Every write of a part of a transaction is to an allowed row, and it fails
only as described. -/
def WritesWithin (allowed : Key → Prop) (fails : Error → Prop)
    (session : Session Row Event Error Value) : Prop :=
  match session with
  | .done _ => True
  | .fail error => fails error
  | .read next failed =>
      (∀ view, (next view).WritesWithin allowed fails) ∧
        failed.WritesWithin allowed fails
  | .lock _ _ _ next failed =>
      (∀ row, (next row).WritesWithin allowed fails) ∧
        failed.WritesWithin allowed fails
  | .write key _ next => allowed key ∧ next.WritesWithin allowed fails
  | .commit _ _ _ => False
  | .rollback _ => False
  | .emit _ _ _ _ _ => False

/-- A session that returns a value only right after its commit, whose event
reports the value. -/
def CommitsOnce (reports : Event → Value → Prop)
    (session : Session Row Event Error Value) : Prop :=
  match session with
  | .done _ => False
  | .fail _ => True
  | .read next failed =>
      (∀ view, (next view).CommitsOnce reports) ∧ failed.CommitsOnce reports
  | .lock _ _ _ next failed =>
      (∀ row, (next row).CommitsOnce reports) ∧ failed.CommitsOnce reports
  | .write _ _ next => next.CommitsOnce reports
  | .commit event next failed =>
      (∃ value, next = .done value ∧ reports event value) ∧
        ∃ error, failed = .fail error
  | .rollback _ => False
  | .emit _ _ _ _ _ => False

section Frames

variable {allowed : Key → Prop} {fails : Error → Prop}

theorem WritesWithin.bind {first : Session Row Event Error Value}
    {rest : Value → Session Row Event Error Other}
    (firstWithin : first.WritesWithin allowed fails)
    (restWithin : ∀ value, (rest value).WritesWithin allowed fails) :
    (first >>= rest).WritesWithin allowed fails := by
  change (first.bind rest).WritesWithin allowed fails
  induction first with
  | done value => exact restWithin value
  | fail error => exact firstWithin
  | read next failed ihNext ihFailed =>
      exact ⟨fun view => ihNext view (firstWithin.1 view),
        ihFailed firstWithin.2⟩
  | lock mode key wanted next failed ihNext ihFailed =>
      exact ⟨fun row => ihNext row (firstWithin.1 row),
        ihFailed firstWithin.2⟩
  | write key row next ihNext =>
      exact ⟨firstWithin.1, ihNext firstWithin.2⟩
  | commit event next failed => exact firstWithin.elim
  | rollback next => exact firstWithin.elim
  | emit event key row next failed => exact firstWithin.elim

/-- A part of a transaction before its commit. -/
theorem CommitsOnce.bind {reports : Event → Other → Prop}
    {first : Session Row Event Error Value}
    {rest : Value → Session Row Event Error Other}
    (firstWithin : first.WritesWithin allowed fails)
    (restCommits : ∀ value, (rest value).CommitsOnce reports) :
    (first >>= rest).CommitsOnce reports := by
  change (first.bind rest).CommitsOnce reports
  induction first with
  | done value => exact restCommits value
  | fail error => trivial
  | read next failed ihNext ihFailed =>
      exact ⟨fun view => ihNext view (firstWithin.1 view),
        ihFailed firstWithin.2⟩
  | lock mode key wanted next failed ihNext ihFailed =>
      exact ⟨fun row => ihNext row (firstWithin.1 row),
        ihFailed firstWithin.2⟩
  | write key row next ihNext => exact ihNext firstWithin.2
  | commit event next failed => exact firstWithin.elim
  | rollback next => exact firstWithin.elim
  | emit event key row next failed => exact firstWithin.elim

theorem CommitsOnce.mapError {NewError : Type} {report : Error → NewError}
    {reports : Event → Value → Prop} {session : Session Row Event Error Value}
    (commits : session.CommitsOnce reports) :
    (session.mapError report).CommitsOnce reports := by
  induction session with
  | done value => exact commits
  | fail error => trivial
  | read next failed ihNext ihFailed =>
      exact ⟨fun view => ihNext view (commits.1 view), ihFailed commits.2⟩
  | lock mode key wanted next failed ihNext ihFailed =>
      exact ⟨fun row => ihNext row (commits.1 row), ihFailed commits.2⟩
  | write key row next ihNext => exact ihNext commits
  | commit event next failed =>
      obtain ⟨⟨value, rfl, told⟩, error, rfl⟩ := commits
      exact ⟨⟨value, rfl, told⟩, report error, rfl⟩
  | rollback next => exact commits
  | emit event key row next failed => exact commits

/-- The value after the commit may be rewritten. -/
theorem CommitsOnce.map {reports : Event → Other → Prop}
    {answer : Value → Other} {session : Session Row Event Error Value}
    (commits : session.CommitsOnce fun event value =>
      reports event (answer value)) :
    (session >>= fun value => pure (answer value)).CommitsOnce reports := by
  change (session.bind fun value => .done (answer value)).CommitsOnce reports
  induction session with
  | done value => exact commits
  | fail error => trivial
  | read next failed ihNext ihFailed =>
      exact ⟨fun view => ihNext view (commits.1 view), ihFailed commits.2⟩
  | lock mode key wanted next failed ihNext ihFailed =>
      exact ⟨fun row => ihNext row (commits.1 row), ihFailed commits.2⟩
  | write key row next ihNext => exact ihNext commits
  | commit event next failed =>
      obtain ⟨⟨value, rfl, told⟩, error, rfl⟩ := commits
      exact ⟨⟨answer value, rfl, told⟩, error, rfl⟩
  | rollback next => exact commits
  | emit event key row next failed => exact commits

theorem WritesWithin.mono {wider : Key → Prop} {mayFail : Error → Prop}
    {session : Session Row Event Error Value}
    (implies : ∀ key, allowed key → wider key)
    (failsToo : ∀ error, fails error → mayFail error)
    (within : session.WritesWithin allowed fails) :
    session.WritesWithin wider mayFail := by
  induction session with
  | done value => trivial
  | fail error => exact failsToo error within
  | read next failed ihNext ihFailed =>
      exact ⟨fun view => ihNext view (within.1 view), ihFailed within.2⟩
  | lock mode key wanted next failed ihNext ihFailed =>
      exact ⟨fun row => ihNext row (within.1 row), ihFailed within.2⟩
  | write key row next ihNext =>
      exact ⟨implies key within.1, ihNext within.2⟩
  | commit event next failed => exact within.elim
  | rollback next => exact within.elim
  | emit event key row next failed => exact within.elim

theorem writesWithin_pure {value : Value} :
    (pure value : Session Row Event Error Value).WritesWithin allowed
      fails :=
  trivial

theorem writesWithin_query {error : Error} {ask : Store Row → Value}
    (failed : fails error) :
    (query error ask : Session Row Event Error Value).WritesWithin allowed
      fails :=
  ⟨fun _ => trivial, failed⟩

theorem writesWithin_selectForUpdate {error : Error} {key : Key}
    {condition : Row key → Bool} (failed : fails error) :
    (selectForUpdate error key condition :
      Session Row Event Error _).WritesWithin allowed fails :=
  ⟨fun _ => trivial, failed⟩

theorem writesWithin_updateRow {error : Error} {key : Key}
    {condition : Row key → Bool} {change : Row key → Row key}
    (failed : fails error) (isAllowed : allowed key) :
    (updateRow error key condition change :
      Session Row Event Error _).WritesWithin allowed fails := by
  refine ⟨fun row => ?_, failed⟩
  dsimp only
  split
  · trivial
  · exact ⟨isAllowed, trivial⟩

theorem writesWithin_insertRow {error : Error} {key : Key} {row : Row key}
    (failed : fails error) (isAllowed : allowed key) :
    (insertRow error key row :
      Session Row Event Error _).WritesWithin allowed fails := by
  refine ⟨fun existing => ?_, failed⟩
  cases existing with
  | some row => trivial
  | none => exact ⟨isAllowed, trivial⟩

theorem writesWithin_upsertRow {error : Error} {key : Key} {fresh : Row key}
    {change : Row key → Row key} (failed : fails error)
    (isAllowed : allowed key) :
    (upsertRow error key fresh change :
      Session Row Event Error _).WritesWithin allowed fails :=
  ⟨fun _ => ⟨isAllowed, trivial⟩, failed⟩

theorem writesWithin_mapError {NewError : Type} {report : Error → NewError}
    {mayFail : NewError → Prop} {session : Session Row Event Error Value}
    (failsToo : ∀ error, fails error → mayFail (report error))
    (within : session.WritesWithin allowed fails) :
    (session.mapError report).WritesWithin allowed mayFail := by
  induction session with
  | done value => trivial
  | fail error => exact failsToo error within
  | read next failed ihNext ihFailed =>
      exact ⟨fun view => ihNext view (within.1 view), ihFailed within.2⟩
  | lock mode key wanted next failed ihNext ihFailed =>
      exact ⟨fun row => ihNext row (within.1 row), ihFailed within.2⟩
  | write key row next ihNext => exact ⟨within.1, ihNext within.2⟩
  | commit event next failed => exact within.elim
  | rollback next => exact within.elim
  | emit event key row next failed => exact within.elim

end Frames

end Session

namespace Discipline

variable [DecidableEq Key] {rules : Discipline Row Event Error}

/-- A part of a transaction leaves the rows it may not write alone. -/
theorem wp_frame {allowed : Key → Prop} {fails : Error → Prop}
    {session : Session Row Event Error Value} {own : Overlay Row}
    {store : Store Row}
    (refuses : ∀ error, fails error → rules.refusal error store)
    (within : session.WritesWithin allowed fails) :
    rules.wp session own store fun _ last final =>
      final = store ∧ ∀ key, ¬ allowed key → last key = own key := by
  induction session generalizing own with
  | done value => exact ⟨rfl, fun _ _ => rfl⟩
  | fail error => exact refuses error within
  | read next failed ihNext ihFailed =>
      exact ⟨fun older _ => ihNext _ (within.1 _), ihFailed within.2⟩
  | lock mode key wanted next failed ihNext ihFailed =>
      exact ⟨fun _ => ihNext _ (within.1 _),
        fun older _ _ => ihNext _ (within.1 _), ihFailed within.2⟩
  | write key row next ihNext =>
      refine wp_mono ?_ (@ihNext (own.set key row) within.2)
      rintro value last final ⟨same, kept⟩
      refine ⟨same, fun other forbidden => ?_⟩
      have different : other ≠ key := by
        rintro rfl
        exact forbidden within.1
      rw [kept other forbidden, Overlay.set,
        Function.update_of_ne different]
  | commit event next failed => exact within.elim
  | rollback next => exact within.elim
  | emit event key row next failed => exact within.elim

end Discipline

section Outcomes

variable {reports : Event → Value → Prop}
variable {program : Request → Session Row Event Error Value}
variable {database after : Database Row Event} {owner other : Nat}
variable {own : Overlay Row} {rest : Session Row Event Error Value}
variable {task : Option (SessionTask Row Event Error Value)}

/-- No commit takes effect while reporting a failure. -/
def acknowledged
    (_ : Pool (Database Row Event) (SessionTask Row Event Error Value))
    (label : Nat × SessionLabel Request) : Prop :=
  label.2 ≠ .loseAcknowledgement

/-- The publications of one session. -/
def publishedBy (database : Database Row Event) (owner : Nat) :
    List (Publication Row Event) :=
  database.log.filter fun publication => publication.owner = owner

/-- The publications of a session that commits once, by where it is. -/
def Reported (reports : Event → Value → Prop)
    (database : Database Row Event) (owner : Nat) :
    Option (SessionTask Row Event Error Value) → Prop
  | none => publishedBy database owner = []
  | some .dropped => True
  | some (.ended (.ok value)) =>
      ∃ publication, publishedBy database owner = [publication] ∧
        reports publication.event value
  | some (.ended (.error _)) => publishedBy database owner = []
  | some (.running _ rest) =>
      (rest.CommitsOnce reports ∧ publishedBy database owner = []) ∨
      ∃ value publication, rest = .done value ∧
        publishedBy database owner = [publication] ∧
        reports publication.event value

/-- What one step of a session does to the publications. -/
structure ReportKept (reports : Event → Value → Prop) (owner : Nat)
    (before after : Database Row Event)
    (task : Option (SessionTask Row Event Error Value)) : Prop where
  own : Reported reports after owner task
  others : ∀ other, other ≠ owner →
    publishedBy after other = publishedBy before other

theorem ReportKept.of_log (sameLog : after.log = database.log)
    (reported : Reported reports after owner task) :
    ReportKept reports owner database after task :=
  ⟨reported, fun _ _ => by simp [publishedBy, sameLog]⟩

theorem fault_reported {reached : SessionTask Row Event Error Value}
    (reported : Reported reports database owner (some (.running own rest)))
    (stepTo : fault database owner own rest = some (after, reached)) :
    ReportKept reports owner database after (some reached) := by
  rcases reported with ⟨commits, unpublished⟩ | ⟨value, _, rfl, _, _⟩
  · cases rest with
    | done value => exact commits.elim
    | fail error => simp [fault] at stepTo
    | read next failed =>
        simp only [fault, Option.some.injEq, Prod.mk.injEq] at stepTo
        obtain ⟨rfl, rfl⟩ := stepTo
        exact .of_log rfl (Or.inl ⟨commits.2, unpublished⟩)
    | lock mode key wanted next failed =>
        simp only [fault, Option.some.injEq, Prod.mk.injEq] at stepTo
        obtain ⟨rfl, rfl⟩ := stepTo
        exact .of_log rfl (Or.inl ⟨commits.2, unpublished⟩)
    | write key row next => simp [fault] at stepTo
    | commit event next failed =>
        simp only [fault, Option.some.injEq, Prod.mk.injEq] at stepTo
        obtain ⟨rfl, rfl⟩ := stepTo
        obtain ⟨_, error, rfl⟩ := commits
        exact .of_log rfl (Or.inl ⟨trivial, unpublished⟩)
    | rollback next => exact commits.elim
    | emit event key row next failed => exact commits.elim
  · simp [fault] at stepTo

theorem Reported.of_samePublications {databaseAfter : Database Row Event}
    (reported : Reported reports database other task)
    (same : publishedBy databaseAfter other = publishedBy database other) :
    Reported reports databaseAfter other task := by
  match task, reported with
  | none, reported => exact same.trans reported
  | some .dropped, _ => trivial
  | some (.ended (.ok value)), reported =>
      simpa only [Reported, same] using reported
  | some (.ended (.error error)), reported => exact same.trans reported
  | some (.running own rest), reported =>
      simpa only [Reported, same] using reported

variable [DecidableEq Key]

theorem advance_reported {reached : SessionTask Row Event Error Value}
    (reported : Reported reports database owner (some (.running own rest)))
    (stepTo : advance database owner own rest = some (after, reached)) :
    ReportKept reports owner database after (some reached) := by
  rcases reported with ⟨commits, unpublished⟩ |
    ⟨value, publication, rfl, published, told⟩
  · cases rest with
    | done value => exact commits.elim
    | fail error =>
        simp only [advance, Option.some.injEq, Prod.mk.injEq] at stepTo
        obtain ⟨rfl, rfl⟩ := stepTo
        exact .of_log rfl unpublished
    | read next failed =>
        simp only [advance, Option.some.injEq, Prod.mk.injEq] at stepTo
        obtain ⟨rfl, rfl⟩ := stepTo
        exact .of_log rfl (Or.inl ⟨commits.1 _, unpublished⟩)
    | lock mode key wanted next failed =>
        simp only [advance] at stepTo
        split at stepTo
        · split at stepTo
          · simp only [Option.some.injEq, Prod.mk.injEq] at stepTo
            obtain ⟨rfl, rfl⟩ := stepTo
            exact .of_log rfl (Or.inl ⟨commits.1 _, unpublished⟩)
          · contradiction
        · simp only [Option.some.injEq, Prod.mk.injEq] at stepTo
          obtain ⟨rfl, rfl⟩ := stepTo
          exact .of_log rfl (Or.inl ⟨commits.1 _, unpublished⟩)
    | write key row next =>
        simp only [advance] at stepTo
        split at stepTo
        · simp only [Option.some.injEq, Prod.mk.injEq] at stepTo
          obtain ⟨rfl, rfl⟩ := stepTo
          exact .of_log rfl (Or.inl ⟨commits, unpublished⟩)
        · contradiction
    | commit event next failed =>
        simp only [advance, Option.some.injEq, Prod.mk.injEq] at stepTo
        obtain ⟨rfl, rfl⟩ := stepTo
        obtain ⟨⟨value, rfl, told⟩, _⟩ := commits
        refine ⟨Or.inr ⟨value, ⟨owner, event, database.store,
          own.view database.store⟩, rfl, ?_, told⟩, fun other different => ?_⟩
        · have filtered := unpublished
          simp only [publishedBy] at filtered
          simp [publishedBy, Database.release, Database.publish, filtered]
        · simp [publishedBy, Database.release, Database.publish,
            Ne.symm different]
    | rollback next => exact commits.elim
    | emit event key row next failed => exact commits.elim
  · simp only [advance, Option.some.injEq, Prod.mk.injEq] at stepTo
    obtain ⟨rfl, rfl⟩ := stepTo
    exact .of_log rfl ⟨publication, published, told⟩

theorem act_reported (commits : ∀ request,
      (program request).CommitsOnce reports)
    {label : SessionLabel Request}
    (reported : Reported reports database owner task)
    (isAcknowledged : label ≠ .loseAcknowledgement)
    {next : Option (SessionTask Row Event Error Value)}
    (acted : sessionAct program database owner task label =
      some (after, next)) :
    ReportKept reports owner database after next := by
  unfold sessionAct at acted
  split at acted
  · simp only [Option.some.injEq, Prod.mk.injEq] at acted
    obtain ⟨rfl, rfl⟩ := acted
    exact .of_log rfl (Or.inl ⟨commits _, reported⟩)
  · obtain ⟨⟨afterStep, reached⟩, stepTo, equal⟩ :=
      Option.map_eq_some_iff.mp acted
    simp only [Prod.mk.injEq] at equal
    obtain ⟨rfl, rfl⟩ := equal
    exact advance_reported reported stepTo
  · obtain ⟨⟨afterStep, reached⟩, stepTo, equal⟩ :=
      Option.map_eq_some_iff.mp acted
    simp only [Prod.mk.injEq] at equal
    obtain ⟨rfl, rfl⟩ := equal
    exact fault_reported reported stepTo
  · exact absurd rfl isAcknowledged
  · simp only [Option.some.injEq, Prod.mk.injEq] at acted
    obtain ⟨rfl, rfl⟩ := acted
    exact .of_log rfl trivial
  · contradiction

/-- In every run with acknowledged commits, sessions that commit once have
published what they report. -/
theorem reported_of_reaches
    (commits : ∀ request, (program request).CommitsOnce reports)
    {initial : Store Row}
    {allowed : Pool (Database Row Event)
      (SessionTask Row Event Error Value) →
      Nat × SessionLabel Request → Prop}
    (acknowledges : ∀ pool label, allowed pool label →
      acknowledged pool label)
    {pool : Pool (Database Row Event) (SessionTask Row Event Error Value)}
    (run : Reaches (poolStep (sessionAct program)) allowed
      (Pool.idle (Database.fresh initial)) pool) (owner : Nat) :
    Reported reports pool.world owner (pool.tasks owner) := by
  have holds : Holds (fun _ => True) (Reported reports) pool := by
    refine Holds.reaches ?_ run ⟨trivial, fun _ => rfl⟩
    intro pool owner label after task holds permitted acted
    have kept := act_reported commits (holds.own owner)
      (acknowledges pool (owner, label) permitted) acted
    exact ⟨trivial, kept.own, fun other different =>
      Reported.of_samePublications (holds.own other)
        (kept.others other different)⟩
  exact holds.own owner

end Outcomes

end Sessions

end ZaloBot
