import ZaloBot.SessionOutcomes
import ZaloBot.SessionEvents

/-!
# What sessions publish on the strength of earlier publications

An event may name a claim, such as the lease of a job, that a row of the store
is to have borne out before.  A session earns the claims that its own writes
bear out when they are committed.  If every session names only claims that it
has earned, then in every run each publication that names a claim comes after
one that left a store bearing the claim out.
-/

namespace ZaloBot

namespace Sessions

open LabelledRuns TaskPool

variable {Key : Type} {Row : Key → Type}
variable {Event NewEvent Error Value Other Request Claim : Type}

namespace Session

/-- Everything that a session may publish is allowed. -/
def Names (allowed : Event → Prop) : Session Row Event Error Value → Prop
  | .done _ => True
  | .fail _ => True
  | .read next failed =>
      (∀ view, (next view).Names allowed) ∧ failed.Names allowed
  | .lock _ _ _ next failed =>
      (∀ row, (next row).Names allowed) ∧ failed.Names allowed
  | .write _ _ next => next.Names allowed
  | .commit event next failed =>
      allowed event ∧ next.Names allowed ∧ failed.Names allowed
  | .rollback next => next.Names allowed
  | .emit event _ _ next failed =>
      allowed event ∧ next.Names allowed ∧ failed.Names allowed

section Names

variable {allowed wider : Event → Prop}

theorem Names.mono {session : Session Row Event Error Value}
    (implies : ∀ event, allowed event → wider event)
    (names : session.Names allowed) : session.Names wider := by
  induction session with
  | done value => trivial
  | fail error => trivial
  | read next failed ihNext ihFailed =>
      exact ⟨fun view => ihNext view (names.1 view), ihFailed names.2⟩
  | lock mode key wanted next failed ihNext ihFailed =>
      exact ⟨fun row => ihNext row (names.1 row), ihFailed names.2⟩
  | write key row next ihNext => exact ihNext names
  | commit event next failed ihNext ihFailed =>
      exact ⟨implies event names.1, ihNext names.2.1, ihFailed names.2.2⟩
  | rollback next ihNext => exact ihNext names
  | emit event key row next failed ihNext ihFailed =>
      exact ⟨implies event names.1, ihNext names.2.1, ihFailed names.2.2⟩

theorem Names.bind {first : Session Row Event Error Value}
    {rest : Value → Session Row Event Error Other}
    (begins : first.Names allowed)
    (continues : ∀ value, (rest value).Names allowed) :
    (first >>= rest).Names allowed := by
  change (first.bind rest).Names allowed
  induction first with
  | done value => exact continues value
  | fail error => trivial
  | read next failed ihNext ihFailed =>
      exact ⟨fun view => ihNext view (begins.1 view), ihFailed begins.2⟩
  | lock mode key wanted next failed ihNext ihFailed =>
      exact ⟨fun row => ihNext row (begins.1 row), ihFailed begins.2⟩
  | write key row next ihNext => exact ihNext begins
  | commit event next failed ihNext ihFailed =>
      exact ⟨begins.1, ihNext begins.2.1, ihFailed begins.2.2⟩
  | rollback next ihNext => exact ihNext begins
  | emit event key row next failed ihNext ihFailed =>
      exact ⟨begins.1, ihNext begins.2.1, ihFailed begins.2.2⟩

theorem Names.attempt {session : Session Row Event Error Value}
    (names : session.Names allowed) : session.attempt.Names allowed := by
  induction session with
  | done value => trivial
  | fail error => trivial
  | read next failed ihNext ihFailed =>
      exact ⟨fun view => ihNext view (names.1 view), ihFailed names.2⟩
  | lock mode key wanted next failed ihNext ihFailed =>
      exact ⟨fun row => ihNext row (names.1 row), ihFailed names.2⟩
  | write key row next ihNext => exact ihNext names
  | commit event next failed ihNext ihFailed =>
      exact ⟨names.1, ihNext names.2.1, ihFailed names.2.2⟩
  | rollback next ihNext => exact ihNext names
  | emit event key row next failed ihNext ihFailed =>
      exact ⟨names.1, ihNext names.2.1, ihFailed names.2.2⟩

/-- A session under other names publishes only those. -/
theorem names_mapEvent {rename : NewEvent → Event}
    {session : Session Row NewEvent Error Value}
    (renamed : ∀ event, allowed (rename event)) :
    (session.mapEvent rename).Names allowed := by
  induction session with
  | done value => trivial
  | fail error => trivial
  | read next failed ihNext ihFailed => exact ⟨ihNext, ihFailed⟩
  | lock mode key wanted next failed ihNext ihFailed =>
      exact ⟨ihNext, ihFailed⟩
  | write key row next ihNext => exact ihNext
  | commit event next failed ihNext ihFailed =>
      exact ⟨renamed event, ihNext, ihFailed⟩
  | rollback next ihNext => exact ihNext
  | emit event key row next failed ihNext ihFailed =>
      exact ⟨renamed event, ihNext, ihFailed⟩

theorem names_commitTransaction {error : Error} {event : Event}
    (isAllowed : allowed event) :
    (commitTransaction error event : Session Row Event Error _).Names
      allowed :=
  ⟨isAllowed, trivial, trivial⟩

end Names

variable [DecidableEq Key] (names : Event → Claim → Prop)
  (bearsOut : Store Row → Claim → Prop)

/-- A session names only claims that it has earned, and ends as described. -/
def Earns (earned : Claim → Prop) (own : Overlay Row)
    (post : Value → (Claim → Prop) → Overlay Row → Prop) :
    Session Row Event Error Value → Prop
  | .done value => post value earned own
  | .fail _ => True
  | .read next failed =>
      (∀ view, (next view).Earns earned own post) ∧
        failed.Earns earned own post
  | .lock _ _ _ next failed =>
      (∀ row, (next row).Earns earned own post) ∧
        failed.Earns earned own post
  | .write key row next => next.Earns earned (own.set key row) post
  | .commit event next failed =>
      (∀ claim, names event claim → earned claim) ∧
      next.Earns (fun claim => earned claim ∨
        ∀ store, bearsOut (own.view store) claim) Overlay.none post ∧
      failed.Earns earned Overlay.none post
  | .rollback next => next.Earns earned Overlay.none post
  | .emit event _ _ next failed =>
      (∀ claim, names event claim → earned claim) ∧
        next.Earns earned own post ∧ failed.Earns earned own post

variable {names bearsOut}

theorem Earns.bind {first : Session Row Event Error Value}
    {rest : Value → Session Row Event Error Other}
    {earned : Claim → Prop} {own : Overlay Row}
    {middle : Value → (Claim → Prop) → Overlay Row → Prop}
    {post : Other → (Claim → Prop) → Overlay Row → Prop}
    (begins : first.Earns names bearsOut earned own middle)
    (continues : ∀ value earned own, middle value earned own →
      (rest value).Earns names bearsOut earned own post) :
    (first >>= rest).Earns names bearsOut earned own post := by
  change (first.bind rest).Earns names bearsOut earned own post
  induction first generalizing earned own with
  | done value => exact continues value earned own begins
  | fail error => trivial
  | read next failed ihNext ihFailed =>
      exact ⟨fun view => ihNext view (begins.1 view), ihFailed begins.2⟩
  | lock mode key wanted next failed ihNext ihFailed =>
      exact ⟨fun row => ihNext row (begins.1 row), ihFailed begins.2⟩
  | write key row next ihNext => exact ihNext begins
  | commit event next failed ihNext ihFailed =>
      exact ⟨begins.1, ihNext begins.2.1, ihFailed begins.2.2⟩
  | rollback next ihNext => exact ihNext begins
  | emit event key row next failed ihNext ihFailed =>
      exact ⟨begins.1, ihNext begins.2.1, ihFailed begins.2.2⟩

/-- A session that names only claims that have been earned before. -/
theorem Names.earns {session : Session Row Event Error Value}
    {earned : Claim → Prop} {own : Overlay Row}
    (within : session.Names fun event =>
      ∀ claim, names event claim → earned claim) :
    session.Earns names bearsOut earned own fun _ _ _ => True := by
  induction session generalizing earned own with
  | done value => trivial
  | fail error => trivial
  | read next failed ihNext ihFailed =>
      exact ⟨fun view => ihNext view (within.1 view), ihFailed within.2⟩
  | lock mode key wanted next failed ihNext ihFailed =>
      exact ⟨fun row => ihNext row (within.1 row), ihFailed within.2⟩
  | write key row next ihNext => exact ihNext within
  | commit event next failed ihNext ihFailed =>
      exact ⟨within.1, ihNext (within.2.1.mono fun _ known claim named =>
        .inl (known claim named)), ihFailed within.2.2⟩
  | rollback next ihNext => exact ihNext within
  | emit event key row next failed ihNext ihFailed =>
      exact ⟨within.1, ihNext within.2.1, ihFailed within.2.2⟩

end Session

namespace Discipline

variable {rules : Discipline Row Event Error} {initial store : Store Row}
  {log later earlier : List (Publication Row Event)}
  {publication : Publication Row Event}

/-- The log before one of its publications. -/
theorem Logged.of_split (logged : rules.Logged initial log store)
    (split : log = later ++ publication :: earlier) :
    rules.Logged initial earlier publication.before ∧
      rules.invariant publication.before ∧
      rules.guarantee publication.before publication.event
        publication.after := by
  induction logged generalizing later with
  | nil => simp at split
  | cons logged holds permitted guaranteed ih =>
      cases later with
      | nil =>
          obtain ⟨rfl, rfl⟩ := List.cons.inj split
          exact ⟨logged, holds, guaranteed⟩
      | cons first rest => exact ih (List.cons.inj split).2

/-- What has held after a publication holds until a later one breaks it. -/
theorem Logged.holds_until (holds : Store Row → Prop)
    (logged : rules.Logged initial log store)
    (split : log = later ++ publication :: earlier)
    (held : holds publication.after) :
    holds store ∨ ∃ breaker ∈ later,
      holds breaker.before ∧ ¬ holds breaker.after := by
  induction logged generalizing later with
  | nil => simp at split
  | @cons log before after owner event logged invariant permitted guaranteed
      ih =>
      cases later with
      | nil =>
          obtain ⟨rfl, rfl⟩ := List.cons.inj split
          exact .inl held
      | cons first rest =>
          obtain ⟨rfl, splitRest⟩ := List.cons.inj split
          rcases ih splitRest with still | ⟨breaker, member, breaks⟩
          · by_cases kept : holds after
            · exact .inl kept
            · exact .inr ⟨_, List.mem_cons_self, still, kept⟩
          · exact .inr ⟨breaker, List.mem_cons_of_mem _ member, breaks⟩

end Discipline

section Runs

variable (names : Event → Claim → Prop) (bearsOut : Store Row → Claim → Prop)

/-- Every publication names only claims that an earlier one left borne out. -/
def Vouched : List (Publication Row Event) → Prop
  | [] => True
  | publication :: earlier =>
      (∀ claim, names publication.event claim →
        ∃ grant ∈ earlier, bearsOut grant.after claim) ∧ Vouched earlier

/-- A session goes on from claims that the log bears out. -/
def EarnsOn [DecidableEq Key] (database : Database Row Event) :
    Option (SessionTask Row Event Error Value) → Prop
  | some (.running own rest) => ∃ earned : Claim → Prop,
      (∀ claim, earned claim →
        ∃ grant ∈ database.log, bearsOut grant.after claim) ∧
      rest.Earns names bearsOut earned own fun _ _ _ => True
  | _ => True

variable {names bearsOut}

theorem Vouched.of_split {log later earlier : List (Publication Row Event)}
    {publication : Publication Row Event}
    (vouched : Vouched names bearsOut log)
    (split : log = later ++ publication :: earlier) {claim : Claim}
    (named : names publication.event claim) :
    ∃ grant ∈ earlier, bearsOut grant.after claim := by
  subst split
  induction later with
  | nil => exact vouched.1 claim named
  | cons _ later ih => exact ih vouched.2

/-- A longer log bears out no less. -/
theorem borne_mono {log longer : List (Publication Row Event)}
    {earned : Claim → Prop} (grown : log ⊆ longer)
    (borne : ∀ claim, earned claim →
      ∃ grant ∈ log, bearsOut grant.after claim) :
    ∀ claim, earned claim → ∃ grant ∈ longer, bearsOut grant.after claim := by
  intro claim isEarned
  obtain ⟨grant, member, holds⟩ := borne claim isEarned
  exact ⟨grant, grown member, holds⟩

variable [DecidableEq Key] {program : Request →
  Session Row Event Error Value} {initial : Store Row}

theorem EarnsOn.mono {before after : Database Row Event}
    {task : Option (SessionTask Row Event Error Value)}
    (grown : before.log ⊆ after.log)
    (earns : EarnsOn names bearsOut before task) :
    EarnsOn names bearsOut after task := by
  rcases task with _ | ⟨own, rest⟩ | result | _
  · trivial
  · obtain ⟨earned, borne, continues⟩ := earns
    exact ⟨earned, borne_mono grown borne, continues⟩
  · trivial
  · trivial

/-- What a step of a session leaves. -/
structure EarnsKept (names : Event → Claim → Prop)
    (bearsOut : Store Row → Claim → Prop) (before after : Database Row Event)
    (task : SessionTask Row Event Error Value) : Prop where
  vouched : Vouched names bearsOut after.log
  grown : before.log ⊆ after.log
  own : EarnsOn names bearsOut after (some task)

variable {database after : Database Row Event} {owner : Nat}
  {own : Overlay Row} {rest : Session Row Event Error Value}
  {task : SessionTask Row Event Error Value}

/-- A step that publishes nothing. -/
theorem EarnsKept.of_unchanged
    (vouched : Vouched names bearsOut database.log)
    (same : after.log = database.log)
    (earns : EarnsOn names bearsOut database (some task)) :
    EarnsKept names bearsOut database after task where
  vouched := same ▸ vouched
  grown := same ▸ List.Subset.refl _
  own := earns.mono (same ▸ List.Subset.refl _)

/-- A step that publishes an event which names what has been earned. -/
theorem EarnsKept.of_published {event : Event} {store : Store Row}
    {earned : Claim → Prop} (vouched : Vouched names bearsOut database.log)
    (borne : ∀ claim, earned claim →
      ∃ grant ∈ database.log, bearsOut grant.after claim)
    (named : ∀ claim, names event claim → earned claim)
    (same : after.log = (database.publish owner event store).log)
    (earns : EarnsOn names bearsOut (database.publish owner event store)
      (some task)) :
    EarnsKept names bearsOut database after task where
  vouched := by
    rw [same]
    exact ⟨fun claim isNamed => borne claim (named claim isNamed), vouched⟩
  grown := by
    rw [same]
    exact List.subset_cons_self _ _
  own := earns.mono (same ▸ List.Subset.refl _)

theorem advance_earns (vouched : Vouched names bearsOut database.log)
    (earns : EarnsOn names bearsOut database (some (.running own rest)))
    (acted : advance database owner own rest = some (after, task)) :
    EarnsKept names bearsOut database after task := by
  obtain ⟨earned, borne, continues⟩ := earns
  cases rest with
  | done value =>
      obtain ⟨rfl, rfl⟩ := Prod.mk.inj (Option.some.inj acted)
      exact .of_unchanged vouched rfl trivial
  | fail error =>
      obtain ⟨rfl, rfl⟩ := Prod.mk.inj (Option.some.inj acted)
      exact .of_unchanged vouched rfl trivial
  | read next failed =>
      obtain ⟨rfl, rfl⟩ := Prod.mk.inj (Option.some.inj acted)
      exact .of_unchanged vouched rfl ⟨earned, borne, continues.1 _⟩
  | lock mode key wanted next failed =>
      simp only [advance] at acted
      split at acted
      · split at acted
        · obtain ⟨rfl, rfl⟩ := Prod.mk.inj (Option.some.inj acted)
          exact .of_unchanged vouched rfl ⟨earned, borne, continues.1 _⟩
        · contradiction
      · obtain ⟨rfl, rfl⟩ := Prod.mk.inj (Option.some.inj acted)
        exact .of_unchanged vouched rfl ⟨earned, borne, continues.1 _⟩
  | write key row next =>
      simp only [advance] at acted
      split at acted
      · obtain ⟨rfl, rfl⟩ := Prod.mk.inj (Option.some.inj acted)
        exact .of_unchanged vouched rfl ⟨earned, borne, continues⟩
      · contradiction
  | commit event next failed =>
      obtain ⟨rfl, rfl⟩ := Prod.mk.inj (Option.some.inj acted)
      refine .of_published vouched borne continues.1 rfl
        ⟨_, fun claim isEarned => ?_, continues.2.1⟩
      rcases isEarned with before | committed
      · exact borne_mono (List.subset_cons_self _ _) borne claim before
      · exact ⟨_, List.mem_cons_self, committed database.store⟩
  | rollback next =>
      obtain ⟨rfl, rfl⟩ := Prod.mk.inj (Option.some.inj acted)
      exact .of_unchanged vouched rfl ⟨earned, borne, continues⟩
  | emit event key row next failed =>
      simp only [advance] at acted
      split at acted
      · obtain ⟨rfl, rfl⟩ := Prod.mk.inj (Option.some.inj acted)
        exact .of_published vouched borne continues.1 rfl
          ⟨earned, borne_mono (List.subset_cons_self _ _) borne,
            continues.2.1⟩
      · contradiction

theorem fault_earns (vouched : Vouched names bearsOut database.log)
    (earns : EarnsOn names bearsOut database (some (.running own rest)))
    (acted : fault database owner own rest = some (after, task)) :
    EarnsKept names bearsOut database after task := by
  obtain ⟨earned, borne, continues⟩ := earns
  cases rest with
  | read next failed =>
      obtain ⟨rfl, rfl⟩ := Prod.mk.inj (Option.some.inj acted)
      exact .of_unchanged vouched rfl ⟨earned, borne, continues.2⟩
  | lock mode key wanted next failed =>
      obtain ⟨rfl, rfl⟩ := Prod.mk.inj (Option.some.inj acted)
      exact .of_unchanged vouched rfl ⟨earned, borne, continues.2⟩
  | commit event next failed =>
      obtain ⟨rfl, rfl⟩ := Prod.mk.inj (Option.some.inj acted)
      exact .of_unchanged vouched rfl ⟨earned, borne, continues.2.2⟩
  | emit event key row next failed =>
      obtain ⟨rfl, rfl⟩ := Prod.mk.inj (Option.some.inj acted)
      exact .of_unchanged vouched rfl ⟨earned, borne, continues.2.2⟩
  | _ => contradiction

theorem loseAcknowledgement_earns
    (vouched : Vouched names bearsOut database.log)
    (earns : EarnsOn names bearsOut database (some (.running own rest)))
    (acted : loseAcknowledgement database owner own rest =
      some (after, task)) :
    EarnsKept names bearsOut database after task := by
  obtain ⟨earned, borne, continues⟩ := earns
  have still {event : Event} {store : Store Row} :
      ∀ claim, earned claim → ∃ grant ∈
        (database.publish owner event store).log, bearsOut grant.after claim :=
    borne_mono (List.subset_cons_self _ _) borne
  cases rest with
  | commit event next failed =>
      obtain ⟨rfl, rfl⟩ := Prod.mk.inj (Option.some.inj acted)
      exact .of_published vouched borne continues.1 rfl
        ⟨earned, still, continues.2.2⟩
  | emit event key row next failed =>
      simp only [loseAcknowledgement] at acted
      split at acted
      · obtain ⟨rfl, rfl⟩ := Prod.mk.inj (Option.some.inj acted)
        exact .of_published vouched borne continues.1 rfl
          ⟨earned, still, continues.2.2⟩
      · contradiction
  | _ => contradiction

/-- In every run of sessions that earn what they name, each publication is
vouched for by an earlier one. -/
theorem vouched_of_reaches
    (earns : ∀ request, (program request).Earns names bearsOut
      (fun _ => False) Overlay.none fun _ _ _ => True)
    {allowed : Pool (Database Row Event)
      (SessionTask Row Event Error Value) → Nat × SessionLabel Request → Prop}
    {pool : Pool (Database Row Event) (SessionTask Row Event Error Value)}
    (run : Reaches (poolStep (sessionAct program)) allowed
      (Pool.idle (Database.fresh initial)) pool) :
    Vouched names bearsOut pool.world.log := by
  have holds : Holds (fun database => Vouched names bearsOut database.log)
      (fun database _ => EarnsOn names bearsOut database) pool := by
    refine Holds.reaches ?_ run ⟨trivial, fun _ => trivial⟩
    intro pool owner label after task holds permitted acted
    have own := holds.own owner
    have kept {state : SessionTask Row Event Error Value}
        {next : Database Row Event}
        (stays : EarnsKept names bearsOut pool.world next state) :
        Vouched names bearsOut next.log ∧
          EarnsOn names bearsOut next (some state) ∧
          ∀ other, other ≠ owner →
            EarnsOn names bearsOut next (pool.tasks other) :=
      ⟨stays.vouched, stays.own, fun other _ =>
        (holds.own other).mono stays.grown⟩
    unfold sessionAct at acted
    split at acted
    · obtain ⟨rfl, rfl⟩ := Prod.mk.inj (Option.some.inj acted)
      exact ⟨holds.shared, ⟨_, fun _ => False.elim, earns _⟩,
        fun other _ => holds.own other⟩
    · rename_i isRunning
      obtain ⟨⟨next, state⟩, advanced, acted⟩ :=
        Option.map_eq_some_iff.mp acted
      obtain ⟨rfl, rfl⟩ := Prod.mk.inj acted
      exact kept (advance_earns holds.shared (isRunning ▸ own) advanced)
    · rename_i isRunning
      obtain ⟨⟨next, state⟩, failed, acted⟩ :=
        Option.map_eq_some_iff.mp acted
      obtain ⟨rfl, rfl⟩ := Prod.mk.inj acted
      exact kept (fault_earns holds.shared (isRunning ▸ own) failed)
    · rename_i isRunning
      obtain ⟨⟨next, state⟩, lost, acted⟩ :=
        Option.map_eq_some_iff.mp acted
      obtain ⟨rfl, rfl⟩ := Prod.mk.inj acted
      exact kept (loseAcknowledgement_earns holds.shared (isRunning ▸ own)
        lost)
    · obtain ⟨rfl, rfl⟩ := Prod.mk.inj (Option.some.inj acted)
      exact kept (.of_unchanged holds.shared rfl trivial)
    · contradiction
  exact holds.shared

end Runs

end Sessions

end ZaloBot
