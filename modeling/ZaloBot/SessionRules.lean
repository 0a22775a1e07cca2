import ZaloBot.SessionRuns

/-!
# Verifying sessions one at a time

A discipline consists of an invariant of the committed rows, a preorder along
which they advance, and a guarantee for every publication.  The weakest
precondition of a session is computed against the store of its next commit:
locked rows are read from that store, plain reads from any earlier one, and
after a commit the store may be any later one.  If every session verifies from
every store that satisfies the invariant, then every run of any number of
sessions keeps the discipline.
-/

namespace ZaloBot

namespace Sessions

open LabelledRuns TaskPool

variable {Key : Type} {Row : Key → Type}
variable {Event Error Value Other Request : Type}

/-- What sessions rely on and guarantee. -/
structure Discipline {Key : Type} (Row : Key → Type) (Event Error : Type)
    where
  invariant : Store Row → Prop
  advances : Store Row → Store Row → Prop
  permitted : Store Row → Event → Prop
  guarantee : Store Row → Event → Store Row → Prop
  refusal : Error → Store Row → Prop
  advances_refl : ∀ store, advances store store
  advances_trans : ∀ {first middle last}, advances first middle →
    advances middle last → advances first last
  keeps : ∀ {before event after}, invariant before →
    guarantee before event after → invariant after ∧ advances before after

namespace Discipline

variable (rules : Discipline Row Event Error)

/-- A store that may be current later. -/
structure Later (store later : Store Row) : Prop where
  invariant : rules.invariant later
  advances : rules.advances store later

/-- A store that may have been current earlier. -/
structure Earlier (older store : Store Row) : Prop where
  invariant : rules.invariant older
  advances : rules.advances older store

variable {rules}

theorem Later.refl {store : Store Row} (holds : rules.invariant store) :
    rules.Later store store :=
  ⟨holds, rules.advances_refl store⟩

theorem Earlier.refl {store : Store Row} (holds : rules.invariant store) :
    rules.Earlier store store :=
  ⟨holds, rules.advances_refl store⟩

theorem Later.trans {first middle last : Store Row}
    (advances : rules.advances first middle)
    (later : rules.Later middle last) : rules.Later first last :=
  ⟨later.invariant, rules.advances_trans advances later.advances⟩

theorem Earlier.trans {first middle last : Store Row}
    (earlier : rules.Earlier first middle)
    (advances : rules.advances middle last) : rules.Earlier first last :=
  ⟨earlier.invariant, rules.advances_trans earlier.advances advances⟩

section Bookkeeping

variable {initial : Store Row} {database after : Database Row Event}
variable {owner other : Nat} {own : Overlay Row}

/-- A log of permitted publications, each of which keeps its guarantee. -/
inductive Logged (rules : Discipline Row Event Error)
    (initial : Store Row) :
    List (Publication Row Event) → Store Row → Prop where
  | nil : Logged rules initial [] initial
  | cons {log : List (Publication Row Event)} {before after : Store Row}
      {owner : Nat} {event : Event}
      (earlier : Logged rules initial log before)
      (holds : rules.invariant before)
      (permitted : rules.permitted before event)
      (guaranteed : rules.guarantee before event after) :
      Logged rules initial (⟨owner, event, before, after⟩ :: log) after

/-- Every publication of a log keeps its guarantee. -/
theorem Logged.of_mem {log : List (Publication Row Event)}
    {store : Store Row} (logged : Logged rules initial log store)
    {publication : Publication Row Event} (member : publication ∈ log) :
    rules.invariant publication.before ∧
      rules.permitted publication.before publication.event ∧
      rules.guarantee publication.before publication.event
        publication.after := by
  induction logged with
  | nil => contradiction
  | cons earlier holds permitted guaranteed ih =>
      rcases List.mem_cons.mp member with rfl | earlierMem
      · exact ⟨holds, permitted, guaranteed⟩
      · exact ih earlierMem

/-- The store has advanced since every publication of its log. -/
theorem Logged.advances_of_mem {log : List (Publication Row Event)}
    {store : Store Row} (logged : Logged rules initial log store)
    {publication : Publication Row Event} (member : publication ∈ log) :
    rules.advances publication.after store := by
  induction logged with
  | nil => contradiction
  | @cons log before after owner event earlier holds permitted guaranteed
      ih =>
      rcases List.mem_cons.mp member with rfl | earlierMem
      · exact rules.advances_refl after
      · exact rules.advances_trans (ih earlierMem)
          (rules.keeps holds guaranteed).2

/-- The store has advanced between a publication and every later one. -/
theorem Logged.advances_before {log : List (Publication Row Event)}
    {store : Store Row} (logged : Logged rules initial log store)
    {later earlier : List (Publication Row Event)}
    {publication : Publication Row Event}
    (split : log = later ++ publication :: earlier) :
    ∀ other ∈ later, rules.advances publication.after other.before := by
  induction logged generalizing later with
  | nil => simp at split
  | @cons log before after owner event logged holds permitted guaranteed
      ih =>
      cases later with
      | nil => simp
      | cons first rest =>
          obtain ⟨rfl, rfl⟩ := List.cons.inj split
          intro other member
          rcases List.mem_cons.mp member with rfl | within
          · exact logged.advances_of_mem (by simp)
          · exact ih rfl other within

/-- A row that has appeared was inserted by a publication. -/
theorem Logged.exists_inserting {log : List (Publication Row Event)}
    {store : Store Row} (logged : Logged rules initial log store) {key : Key}
    (absent : initial key = none) (present : (store key).isSome) :
    ∃ publication ∈ log, publication.before key = none ∧
      (publication.after key).isSome := by
  induction logged with
  | nil => simp [absent] at present
  | @cons log before after owner event earlier holds permitted guaranteed
      ih =>
      cases found : before key with
      | none =>
          exact ⟨⟨owner, event, before, after⟩, List.mem_cons_self, found,
            present⟩
      | some row =>
          obtain ⟨publication, member, inserted⟩ := ih (by simp [found])
          exact ⟨publication, List.mem_cons_of_mem _ member, inserted⟩

/-- What can be spent once only is spent by at most one publication. -/
theorem Logged.spends_once {log : List (Publication Row Event)}
    {store : Store Row} (logged : Logged rules initial log store)
    (spends : Publication Row Event → Prop) (spent : Store Row → Prop)
    (stays : ∀ {before after}, spent before →
      rules.advances before after → spent after)
    (step : ∀ publication, rules.invariant publication.before →
      rules.permitted publication.before publication.event →
      rules.guarantee publication.before publication.event
        publication.after →
      spends publication →
        ¬ spent publication.before ∧ spent publication.after) :
    (log.Pairwise fun later earlier => ¬ (spends later ∧ spends earlier)) ∧
      ∀ publication ∈ log, spends publication → spent store := by
  induction logged with
  | nil => exact ⟨.nil, by simp⟩
  | @cons log before after owner event earlier holds permitted guaranteed
      ih =>
      have advances := (rules.keeps holds guaranteed).2
      refine ⟨List.pairwise_cons.mpr ⟨?_, ih.1⟩, ?_⟩
      · rintro publication member ⟨spendsNow, spendsEarlier⟩
        have fresh := step ⟨owner, event, before, after⟩ holds permitted
          guaranteed spendsNow
        exact fresh.1 (ih.2 publication member spendsEarlier)
      · intro publication member spendsIt
        rcases List.mem_cons.mp member with rfl | earlierMem
        · exact (step _ holds permitted guaranteed spendsIt).2
        · exact stays (ih.2 publication earlierMem spendsIt) advances

/-- Locks of different sessions on one row are shared. -/
def LocksCompatible (locks : List (HeldLock Key)) : Prop :=
  ∀ first ∈ locks, ∀ second ∈ locks, first.key = second.key →
    first.owner ≠ second.owner →
      first.mode = .shared ∧ second.mode = .shared

/-- What holds of the database between any two steps. -/
structure Sound (rules : Discipline Row Event Error) (initial : Store Row)
    (database : Database Row Event) : Prop where
  invariant : rules.invariant database.store
  compatible : LocksCompatible database.locks
  logged : Logged rules initial database.log database.store

/-- Two stores agree on the rows a session has locked. -/
def AgreesLocked (database : Database Row Event) (owner : Nat)
    (store : Store Row) : Prop :=
  ∀ held ∈ database.locks, held.owner = owner →
    store held.key = database.store held.key

/-- A step of another session that a session need not notice. -/
structure Unaffected (rules : Discipline Row Event Error) (owner : Nat)
    (before after : Database Row Event) : Prop where
  advances : rules.advances before.store after.store
  locks : ∀ held : HeldLock Key, held.owner = owner →
    (held ∈ after.locks ↔ held ∈ before.locks)
  rows : AgreesLocked before owner after.store

theorem Unaffected.agrees {store : Store Row}
    (same : Unaffected rules owner database after)
    (agrees : AgreesLocked after owner store) :
    AgreesLocked database owner store := by
  intro held member owned
  rw [agrees held ((same.locks held owned).mpr member) owned]
  exact same.rows held member owned

/-- A step that only touches the locks of its own session. -/
theorem Unaffected.of_locks (sameStore : after.store = database.store)
    (locks : ∀ held : HeldLock Key, held.owner = other →
      (held ∈ after.locks ↔ held ∈ database.locks)) :
    Unaffected rules other database after where
  advances := by
    rw [sameStore]
    exact rules.advances_refl _
  locks := locks
  rows := by
    intro held _ _
    rw [sameStore]

theorem mem_release {held : HeldLock Key} :
    held ∈ (database.release owner).locks ↔
      held ∈ database.locks ∧ held.owner ≠ owner := by
  simp [Database.release]

theorem LocksCompatible.release
    (compatible : LocksCompatible database.locks) :
    LocksCompatible (database.release owner).locks := by
  intro first firstMem second secondMem
  exact compatible first (mem_release.mp firstMem).1 second
    (mem_release.mp secondMem).1

theorem Sound.release (sound : Sound rules initial database) :
    Sound rules initial (database.release owner) :=
  ⟨sound.invariant, sound.compatible.release, sound.logged⟩

theorem release_locks_other (different : other ≠ owner)
    (held : HeldLock Key) (owned : held.owner = other) :
    held ∈ (database.release owner).locks ↔ held ∈ database.locks := by
  rw [mem_release, owned]
  exact and_iff_left different

theorem Sound.publish {event : Event} {store : Store Row}
    (sound : Sound rules initial database)
    (permitted : rules.permitted database.store event)
    (guaranteed : rules.guarantee database.store event store) :
    Sound rules initial (database.publish owner event store) :=
  ⟨(rules.keeps sound.invariant guaranteed).1, sound.compatible,
    .cons sound.logged sound.invariant permitted guaranteed⟩

/-- A row that the session has written is locked by nobody else. -/
theorem view_of_locked_elsewhere
    (compatible : LocksCompatible database.locks)
    (written : ∀ key, own key ≠ Option.none →
      ∃ held ∈ database.locks, held.owner = owner ∧ held.key = key ∧
        held.mode = .exclusive)
    {held : HeldLock Key} (member : held ∈ database.locks)
    (elsewhere : held.owner ≠ owner) (store : Store Row) :
    own.view store held.key = store held.key := by
  cases entry : own held.key with
  | none => simp [Overlay.view, entry]
  | some row =>
      rcases written held.key (by simp [entry]) with
        ⟨mine, mineMem, owned, keyEq, mode⟩
      have shared := (compatible mine mineMem held member keyEq
        (fun same => elsewhere (same ▸ owned))).1
      rw [mode] at shared
      contradiction

/-- The store a commit publishes is unaffected for the other sessions. -/
theorem Unaffected.of_commit {event : Event}
    (sound : Sound rules initial database)
    (written : ∀ key, own key ≠ Option.none →
      ∃ held ∈ database.locks, held.owner = owner ∧ held.key = key ∧
        held.mode = .exclusive)
    (guaranteed : rules.guarantee database.store event
      (own.view database.store)) (different : other ≠ owner) :
    Unaffected rules other database
      ((database.publish owner event (own.view database.store)).release
        owner) where
  advances := (rules.keeps sound.invariant guaranteed).2
  locks := fun held owned => by
    rw [mem_release, owned]
    exact and_iff_left different
  rows := fun held member owned =>
    view_of_locked_elsewhere sound.compatible written member
      (owned ▸ different) database.store

end Bookkeeping

variable (rules) [DecidableEq Key]

/-- The weakest precondition of a session, for the store it commits to. -/
def wp (session : Session Row Event Error Value) (own : Overlay Row)
    (store : Store Row) (post : Value → Overlay Row → Store Row → Prop) :
    Prop :=
  match session with
  | .done value => post value own store
  | .fail error => rules.refusal error store
  | .read next failed =>
      (∀ older, rules.Earlier older store →
        wp (next (own.view older)) own store post) ∧
      wp failed own store post
  | .lock _ key wanted next failed =>
      (wanted (own.view store key) = true →
        wp (next (own.view store key)) own store post) ∧
      (∀ older, rules.Earlier older store →
        wanted (own.view older key) = false →
          wp (next (own.view older key)) own store post) ∧
      wp failed own store post
  | .write key row next => wp next (own.set key row) store post
  | .commit event next failed =>
      (rules.permitted store event →
        rules.guarantee store event (own.view store) ∧
        ∀ later, rules.Later (own.view store) later →
          wp next Overlay.none later post ∧
          wp failed Overlay.none later post) ∧
      ∀ later, rules.Later store later → wp failed Overlay.none later post
  | .rollback next =>
      ∀ later, rules.Later store later → wp next Overlay.none later post
  | .emit event key row next failed =>
      (∀ now, rules.Earlier now store → rules.permitted now event →
        rules.guarantee now event (Function.update now key row)) ∧
      wp next own store post ∧ wp failed own store post

variable {rules}

/-- A weaker postcondition has a weaker precondition. -/
theorem wp_mono {session : Session Row Event Error Value}
    {own : Overlay Row} {store : Store Row}
    {strong weak : Value → Overlay Row → Store Row → Prop}
    (implies : ∀ value own store, strong value own store →
      weak value own store)
    (verified : rules.wp session own store strong) :
    rules.wp session own store weak := by
  induction session generalizing own store with
  | done value => exact implies _ _ _ verified
  | fail error => exact verified
  | read next failed ihNext ihFailed =>
      exact ⟨fun older earlier => ihNext _ (verified.1 older earlier),
        ihFailed verified.2⟩
  | lock mode key wanted next failed ihNext ihFailed =>
      exact ⟨fun hit => ihNext _ (verified.1 hit),
        fun older earlier missed => ihNext _ (verified.2.1 older earlier missed),
        ihFailed verified.2.2⟩
  | write key row next ihNext => exact ihNext verified
  | commit event next failed ihNext ihFailed =>
      refine ⟨fun permitted => ⟨(verified.1 permitted).1, ?_⟩, ?_⟩
      · intro later isLater
        have after := (verified.1 permitted).2 later isLater
        exact ⟨ihNext after.1, ihFailed after.2⟩
      · intro later isLater
        exact ihFailed (verified.2 later isLater)
  | rollback next ihNext =>
      exact fun later isLater => ihNext (verified later isLater)
  | emit event key row next failed ihNext ihFailed =>
      exact ⟨verified.1, ihNext verified.2.1, ihFailed verified.2.2⟩

/-- Sequencing. -/
theorem wp_bind {first : Session Row Event Error Value}
    {rest : Value → Session Row Event Error Other} {own : Overlay Row}
    {store : Store Row} {post : Other → Overlay Row → Store Row → Prop} :
    rules.wp (first.bind rest) own store post ↔
      rules.wp first own store fun value own store =>
        rules.wp (rest value) own store post := by
  induction first generalizing own store with
  | done value => exact Iff.rfl
  | fail error => exact Iff.rfl
  | read next failed ihNext ihFailed =>
      simp only [Session.bind, wp, ihNext, ihFailed]
  | lock mode key wanted next failed ihNext ihFailed =>
      simp only [Session.bind, wp, ihNext, ihFailed]
  | write key row next ihNext => simp only [Session.bind, wp, ihNext]
  | commit event next failed ihNext ihFailed =>
      simp only [Session.bind, wp, ihNext, ihFailed]
  | rollback next ihNext => simp only [Session.bind, wp, ihNext]
  | emit event key row next failed ihNext ihFailed =>
      simp only [Session.bind, wp, ihNext, ihFailed]

@[simp]
theorem wp_monad_bind {first : Session Row Event Error Value}
    {rest : Value → Session Row Event Error Other} {own : Overlay Row}
    {store : Store Row} {post : Other → Overlay Row → Store Row → Prop} :
    rules.wp (first >>= rest) own store post ↔
      rules.wp first own store fun value own store =>
        rules.wp (rest value) own store post :=
  wp_bind

@[simp]
theorem wp_pure {value : Value} {own : Overlay Row} {store : Store Row}
    {post : Value → Overlay Row → Store Row → Prop} :
    rules.wp (pure value : Session Row Event Error Value) own store post ↔
      post value own store :=
  Iff.rfl

section Errors

variable {NewError : Type}

/-- The same discipline with other conditions on errors. -/
def withRefusal (rules : Discipline Row Event Error)
    (refusal : NewError → Store Row → Prop) :
    Discipline Row Event NewError where
  invariant := rules.invariant
  advances := rules.advances
  permitted := rules.permitted
  guarantee := rules.guarantee
  refusal := refusal
  advances_refl := rules.advances_refl
  advances_trans := rules.advances_trans
  keeps := rules.keeps

variable {refusal : NewError → Store Row → Prop}

omit [DecidableEq Key] in
@[simp]
theorem later_withRefusal {store later : Store Row} :
    (rules.withRefusal refusal).Later store later ↔
      rules.Later store later :=
  ⟨fun ⟨holds, advances⟩ => ⟨holds, advances⟩,
    fun ⟨holds, advances⟩ => ⟨holds, advances⟩⟩

omit [DecidableEq Key] in
@[simp]
theorem earlier_withRefusal {older store : Store Row} :
    (rules.withRefusal refusal).Earlier older store ↔
      rules.Earlier older store :=
  ⟨fun ⟨holds, advances⟩ => ⟨holds, advances⟩,
    fun ⟨holds, advances⟩ => ⟨holds, advances⟩⟩

omit [DecidableEq Key] in
@[simp]
theorem permitted_withRefusal :
    (rules.withRefusal refusal).permitted = rules.permitted :=
  rfl

omit [DecidableEq Key] in
@[simp]
theorem guarantee_withRefusal :
    (rules.withRefusal refusal).guarantee = rules.guarantee :=
  rfl

/-- Errors reported under another type. -/
theorem wp_mapError {session : Session Row Event Error Value}
    {report : Error → NewError} {own : Overlay Row} {store : Store Row}
    {rules : Discipline Row Event NewError}
    {post : Value → Overlay Row → Store Row → Prop} :
    rules.wp (session.mapError report) own store post ↔
      (rules.withRefusal fun error => rules.refusal (report error)).wp session
        own store post := by
  induction session generalizing own store with
  | done value => exact Iff.rfl
  | fail error => exact Iff.rfl
  | read next failed ihNext ihFailed =>
      simp only [Session.mapError, wp, ihNext, ihFailed, earlier_withRefusal]
  | lock mode key wanted next failed ihNext ihFailed =>
      simp only [Session.mapError, wp, ihNext, ihFailed, earlier_withRefusal]
  | write key row next ihNext => simp only [Session.mapError, wp, ihNext]
  | commit event next failed ihNext ihFailed =>
      simp only [Session.mapError, wp, ihNext, ihFailed, later_withRefusal,
        permitted_withRefusal, guarantee_withRefusal]
  | rollback next ihNext =>
      simp only [Session.mapError, wp, ihNext, later_withRefusal]
  | emit event key row next failed ihNext ihFailed =>
      simp only [Session.mapError, wp, ihNext, ihFailed, earlier_withRefusal,
        permitted_withRefusal, guarantee_withRefusal]

/-- Errors kept as values. -/
theorem wp_attempt {session : Session Row Event Error Value}
    {own : Overlay Row} {store : Store Row}
    {post : Except Error Value → Overlay Row → Store Row → Prop} :
    rules.wp session.attempt own store post ↔
      (rules.withRefusal fun error store => ∀ later, rules.Later store later →
        post (.error error) Overlay.none later).wp session own store
          fun value => post (.ok value) := by
  induction session generalizing own store with
  | done value => exact Iff.rfl
  | fail error => exact Iff.rfl
  | read next failed ihNext ihFailed =>
      simp only [Session.attempt, wp, ihNext, ihFailed, earlier_withRefusal]
  | lock mode key wanted next failed ihNext ihFailed =>
      simp only [Session.attempt, wp, ihNext, ihFailed, earlier_withRefusal]
  | write key row next ihNext => simp only [Session.attempt, wp, ihNext]
  | commit event next failed ihNext ihFailed =>
      simp only [Session.attempt, wp, ihNext, ihFailed, later_withRefusal,
        permitted_withRefusal, guarantee_withRefusal]
  | rollback next ihNext =>
      simp only [Session.attempt, wp, ihNext, later_withRefusal]
  | emit event key row next failed ihNext ihFailed =>
      simp only [Session.attempt, wp, ihNext, ihFailed, earlier_withRefusal,
        permitted_withRefusal, guarantee_withRefusal]

end Errors

section Snapshots

variable {own : Overlay Row} {store floor : Store Row}

/-- The weakest precondition of a session whose statements see no store before
`floor`, since a snapshot is never older than the one before it, and whose
reads see only stores that `observes` admits. -/
def wpSince (rules : Discipline Row Event Error)
    (observes : Session Row Event Error Value → Store Row → Prop)
    (floor : Store Row) (session : Session Row Event Error Value)
    (own : Overlay Row) (store : Store Row)
    (post : Value → Store Row → Overlay Row → Store Row → Prop) : Prop :=
  match session with
  | .done value => post value floor own store
  | .fail error => rules.refusal error store
  | .read next failed =>
      (∀ older, rules.advances floor older → rules.Earlier older store →
        observes (.read next failed) older →
          wpSince rules observes older (next (own.view older)) own store
            post) ∧
      wpSince rules observes floor failed own store post
  | .lock _ key wanted next failed =>
      (wanted (own.view store key) = true →
        wpSince rules observes floor (next (own.view store key)) own store post) ∧
      (∀ older, rules.advances floor older → rules.Earlier older store →
        wanted (own.view older key) = false →
          wpSince rules observes older (next (own.view older key)) own store post) ∧
      wpSince rules observes floor failed own store post
  | .write key row next =>
      wpSince rules observes floor next (own.set key row) store post
  | .commit event next failed =>
      (rules.permitted store event →
        rules.guarantee store event (own.view store) ∧
        ∀ later, rules.Later (own.view store) later →
          wpSince rules observes floor next Overlay.none later post ∧
          wpSince rules observes floor failed Overlay.none later post) ∧
      ∀ later, rules.Later store later →
        wpSince rules observes floor failed Overlay.none later post
  | .rollback next =>
      ∀ later, rules.Later store later →
        wpSince rules observes floor next Overlay.none later post
  | .emit event key row next failed =>
      (∀ now, rules.Earlier now store → rules.permitted now event →
        rules.guarantee now event (Function.update now key row)) ∧
      wpSince rules observes floor next own store post ∧
      wpSince rules observes floor failed own store post

/-- The order of snapshots and the condition on reads need not be used. -/
theorem wpSince_of_wp {session : Session Row Event Error Value}
    {observes : Session Row Event Error Value → Store Row → Prop}
    {post : Value → Overlay Row → Store Row → Prop}
    (verified : rules.wp session own store post) :
    rules.wpSince observes floor session own store fun value _ => post value := by
  induction session generalizing floor own store with
  | done value => exact verified
  | fail error => exact verified
  | read next failed ihNext ihFailed =>
      exact ⟨fun older _ earlier _ => ihNext _ (verified.1 older earlier),
        ihFailed verified.2⟩
  | lock mode key wanted next failed ihNext ihFailed =>
      exact ⟨fun hit => ihNext _ (verified.1 hit),
        fun older _ earlier missed =>
          ihNext _ (verified.2.1 older earlier missed),
        ihFailed verified.2.2⟩
  | write key row next ihNext => exact ihNext verified
  | commit event next failed ihNext ihFailed =>
      refine ⟨fun permitted => ⟨(verified.1 permitted).1, ?_⟩, ?_⟩
      · intro later isLater
        have after := (verified.1 permitted).2 later isLater
        exact ⟨ihNext after.1, ihFailed after.2⟩
      · intro later isLater
        exact ihFailed (verified.2 later isLater)
  | rollback next ihNext =>
      exact fun later isLater => ihNext (verified later isLater)
  | emit event key row next failed ihNext ihFailed =>
      exact ⟨verified.1, ihNext verified.2.1, ihFailed verified.2.2⟩

/-- Sequencing. -/
theorem wpSince_bind {first : Session Row Event Error Value}
    {rest : Value → Session Row Event Error Other}
    {observes : Session Row Event Error Other → Store Row → Prop}
    {post : Other → Store Row → Overlay Row → Store Row → Prop} :
    rules.wpSince observes floor (first >>= rest) own store post ↔
      rules.wpSince (fun session => observes (session.bind rest)) floor first
        own store fun value floor own store =>
          rules.wpSince observes floor (rest value) own store post := by
  change rules.wpSince observes floor (first.bind rest) own store post ↔ _
  induction first generalizing floor own store with
  | done value => exact Iff.rfl
  | fail error => exact Iff.rfl
  | read next failed ihNext ihFailed =>
      simp only [Session.bind, wpSince, ihNext, ihFailed]
  | lock mode key wanted next failed ihNext ihFailed =>
      simp only [Session.bind, wpSince, ihNext, ihFailed]
  | write key row next ihNext => simp only [Session.bind, wpSince, ihNext]
  | commit event next failed ihNext ihFailed =>
      simp only [Session.bind, wpSince, ihNext, ihFailed]
  | rollback next ihNext => simp only [Session.bind, wpSince, ihNext]
  | emit event key row next failed ihNext ihFailed =>
      simp only [Session.bind, wpSince, ihNext, ihFailed]

end Snapshots

/-- What holds of a session between any two steps. -/
def Verified (rules : Discipline Row Event Error)
    (observes : Session Row Event Error Value → Store Row → Prop)
    (returns : Value → Store Row → Prop) (database : Database Row Event)
    (owner : Nat) : Option (SessionTask Row Event Error Value) → Prop
  | none => True
  | some .dropped => True
  | some (.ended (.ok value)) =>
      ∃ finished, rules.Earlier finished database.store ∧
        returns value finished
  | some (.ended (.error error)) =>
      ∃ finished, rules.Earlier finished database.store ∧
        rules.refusal error finished
  | some (.running own rest) =>
      (∀ key, own key ≠ Option.none →
        ∃ held ∈ database.locks, held.owner = owner ∧ held.key = key ∧
          held.mode = .exclusive) ∧
      ∃ floor, rules.advances floor database.store ∧
        ∀ later, rules.Later database.store later →
          AgreesLocked database owner later →
            rules.wpSince observes floor rest own later fun value _ _ store =>
              returns value store

/-- What a step has to establish. -/
structure StepKept (rules : Discipline Row Event Error)
    (observes : Session Row Event Error Value → Store Row → Prop)
    (returns : Value → Store Row → Prop) (initial : Store Row) (owner : Nat)
    (before after : Database Row Event)
    (task : Option (SessionTask Row Event Error Value)) : Prop where
  sound : Sound rules initial after
  own : Verified rules observes returns after owner task
  others : ∀ other, other ≠ owner → Unaffected rules other before after

section Statements

variable {own : Overlay Row} {store : Store Row} {error : Error} {key : Key}

theorem wp_query {ask : Store Row → Value}
    {post : Value → Overlay Row → Store Row → Prop}
    (failed : rules.refusal error store)
    (answered : ∀ older, rules.Earlier older store →
      post (ask (own.view older)) own store) :
    rules.wp (Session.query error ask) own store post :=
  ⟨answered, failed⟩

theorem wp_selectForUpdate {condition : Row key → Bool}
    {post : Option (Row key) → Overlay Row → Store Row → Prop}
    (failed : rules.refusal error store) (missed : post none own store)
    (found : ∀ row, own.view store key = some row → condition row = true →
      post (some row) own store) :
    rules.wp (Session.selectForUpdate error key condition) own store post := by
  refine ⟨fun hit => ?_, fun older _ miss => ?_, failed⟩
  · obtain ⟨row, present, selected⟩ := (Option.any_eq_true _ _).mp hit
    simpa [wp, present, Option.filter, selected] using
      found row present selected
  · have nothing : (own.view older key).filter condition = none := by
      simpa [Option.any_eq_false] using miss
    simpa [wp, nothing] using missed

theorem wp_updateRow {condition : Row key → Bool}
    {change : Row key → Row key}
    {post : Bool → Overlay Row → Store Row → Prop}
    (failed : rules.refusal error store) (missed : post false own store)
    (updated : ∀ row, own.view store key = some row → condition row = true →
      post true (own.set key (some (change row))) store) :
    rules.wp (Session.updateRow error key condition change) own store
      post := by
  refine ⟨fun hit => ?_, fun older _ miss => ?_, failed⟩
  · obtain ⟨row, present, selected⟩ := (Option.any_eq_true _ _).mp hit
    simpa [wp, present, Option.filter, selected] using
      updated row present selected
  · have nothing : (own.view older key).filter condition = none := by
      simpa [Option.any_eq_false] using miss
    simpa [wp, nothing] using missed

theorem wp_insertRow {row : Row key}
    {post : Bool → Overlay Row → Store Row → Prop}
    (failed : rules.refusal error store)
    (taken : ∀ older existing, rules.Earlier older store →
      own.view older key = some existing → post false own store)
    (inserted : own.view store key = none →
      post true (own.set key (some row)) store) :
    rules.wp (Session.insertRow error key row) own store post := by
  refine ⟨fun hit => ?_, fun older earlier miss => ?_, failed⟩
  · have free := Option.isNone_iff_eq_none.mp hit
    simpa [wp, free] using inserted free
  · cases present : own.view older key with
    | none => simp [present] at miss
    | some existing => exact taken older existing earlier present

theorem wp_upsertRow {fresh : Row key} {change : Row key → Row key}
    {post : Unit → Overlay Row → Store Row → Prop}
    (failed : rules.refusal error store)
    (stored : post () (own.set key
      (some (((own.view store key).map change).getD fresh))) store) :
    rules.wp (Session.upsertRow error key fresh change) own store post :=
  ⟨fun _ => stored, fun _ _ miss => by simp at miss, failed⟩

theorem wp_commitTransaction {event : Event}
    {post : Unit → Overlay Row → Store Row → Prop}
    (failed : ∀ later, rules.refusal error later)
    (committed : rules.permitted store event →
      rules.guarantee store event (own.view store) ∧
      ∀ later, rules.Later (own.view store) later →
        post () Overlay.none later) :
    rules.wp (Session.commitTransaction error event) own store post :=
  ⟨fun permitted => ⟨(committed permitted).1, fun later isLater =>
    ⟨(committed permitted).2 later isLater, failed later⟩⟩,
    fun later _ => failed later⟩

end Statements

section Steps

variable {observes : Session Row Event Error Value → Store Row → Prop}
variable {returns : Value → Store Row → Prop} {initial : Store Row}
variable {database after : Database Row Event} {owner other : Nat}
variable {own : Overlay Row} {rest : Session Row Event Error Value}
variable {task : Option (SessionTask Row Event Error Value)}

theorem Verified.unaffected (verified : Verified rules observes returns database owner
    task) (same : Unaffected rules owner database after) :
    Verified rules observes returns after owner task := by
  match task, verified with
  | none, _ => trivial
  | some .dropped, _ => trivial
  | some (.ended (.ok value)), ⟨finished, earlier, returned⟩ =>
      exact ⟨finished, earlier.trans same.advances, returned⟩
  | some (.ended (.error error)), ⟨finished, earlier, refused⟩ =>
      exact ⟨finished, earlier.trans same.advances, refused⟩
  | some (.running own rest), verified =>
      obtain ⟨written, floor, since, continues⟩ := verified
      refine ⟨fun key isWritten => ?_, floor,
        rules.advances_trans since same.advances,
        fun later isLater agrees => ?_⟩
      · rcases written key isWritten with ⟨held, member, owned, keyEq, mode⟩
        exact ⟨held, (same.locks held owned).mpr member, owned, keyEq, mode⟩
      · exact continues later (isLater.trans same.advances)
          (same.agrees agrees)

/-- The end of a transaction without a commit. -/
theorem StepKept.of_release (sound : Sound rules initial database)
    (verified : Verified rules observes returns (database.release owner) owner task) :
    StepKept rules observes returns initial owner database (database.release owner)
      task :=
  ⟨sound.release, verified, fun _ different =>
    .of_locks rfl (release_locks_other different)⟩

/-- A step that leaves the database alone. -/
theorem StepKept.of_unchanged (sound : Sound rules initial database)
    (verified : Verified rules observes returns database owner task) :
    StepKept rules observes returns initial owner database database task :=
  ⟨sound, verified, fun _ _ => .of_locks rfl fun _ _ => Iff.rfl⟩

/-- A commit, acknowledged or not. -/
theorem commit_kept {event : Event} {next failed chosen :
    Session Row Event Error Value}
    (sound : Sound rules initial database)
    (verified : Verified rules observes returns database owner
      (some (.running own (.commit event next failed))))
    (permitted : rules.permitted database.store event)
    (isChosen : chosen = next ∨ chosen = failed) :
    StepKept rules observes returns initial owner database
      ((database.publish owner event (own.view database.store)).release
        owner) (some (.running Overlay.none chosen)) := by
  obtain ⟨written, floor, since, continues⟩ := verified
  have committed := (continues database.store (.refl sound.invariant)
    fun _ _ _ => rfl).1 permitted
  have advances := (rules.keeps sound.invariant committed.1).2
  refine ⟨(sound.publish permitted committed.1).release,
    ⟨fun key isWritten => absurd rfl isWritten, floor,
      rules.advances_trans since advances, ?_⟩,
    fun other different =>
      .of_commit sound written committed.1 different⟩
  intro later isLater _
  have after := committed.2 later isLater
  rcases isChosen with rfl | rfl
  · exact after.1
  · exact after.2

/-- An outside effect, acknowledged or not. -/
theorem emit_kept {event : Event} {key : Key} {row : Option (Row key)}
    {next failed chosen : Session Row Event Error Value}
    (sound : Sound rules initial database)
    (verified : Verified rules observes returns database owner
      (some (.running own (.emit event key row next failed))))
    (permitted : rules.permitted database.store event)
    (untouched : database.untouched key = true)
    (isChosen : chosen = next ∨ chosen = failed) :
    StepKept rules observes returns initial owner database
      (database.publish owner event (Function.update database.store key row))
      (some (.running own chosen)) := by
  obtain ⟨written, floor, since, continues⟩ := verified
  have guaranteed := (continues database.store (.refl sound.invariant)
    fun _ _ _ => rfl).1 database.store (.refl sound.invariant) permitted
  have advances := (rules.keeps sound.invariant guaranteed).2
  have unlocked (held : HeldLock Key) (member : held ∈ database.locks) :
      Function.update database.store key row held.key =
        database.store held.key := by
    have different := List.all_eq_true.mp untouched held member
    exact Function.update_of_ne (by simpa using different) _ _
  refine ⟨sound.publish permitted guaranteed, ⟨written, floor,
    rules.advances_trans since advances, ?_⟩,
    fun other _ => ⟨advances, fun _ _ => Iff.rfl,
      fun held member _ => unlocked held member⟩⟩
  intro later isLater agrees
  have earlierAgrees : AgreesLocked database owner later := by
    intro held member owned
    rw [agrees held member owned]
    exact unlocked held member
  have rest := continues later (isLater.trans advances) earlierAgrees
  rcases isChosen with rfl | rfl
  · exact rest.2.1
  · exact rest.2.2

theorem lock_kept {mode : LockMode} {key : Key}
    {wanted : Option (Row key) → Bool}
    {next : Option (Row key) → Session Row Event Error Value}
    {failed : Session Row Event Error Value}
    (sound : Sound rules initial database)
    (verified : Verified rules observes returns database owner
      (some (.running own (.lock mode key wanted next failed))))
    (hit : wanted (own.view database.store key) = true)
    (lockable : database.lockable owner key mode = true) :
    StepKept rules observes returns initial owner database
      { database with locks := ⟨owner, key, mode⟩ :: database.locks }
      (some (.running own (next (own.view database.store key)))) := by
  have free (held : HeldLock Key) (member : held ∈ database.locks)
      (elsewhere : held.owner ≠ owner) (sameKey : held.key = key) :
      held.mode = .shared ∧ mode = .shared := by
    have allowed := List.all_eq_true.mp lockable held member
    simpa [elsewhere, sameKey] using allowed
  obtain ⟨written, floor, since, continues⟩ := verified
  refine ⟨⟨sound.invariant, ?_, sound.logged⟩, ⟨?_, floor, since, ?_⟩,
    fun other different => .of_locks rfl fun held owned => ?_⟩
  · intro first firstMem second secondMem sameKey different
    rcases List.mem_cons.mp firstMem with rfl | firstMem
    · rcases List.mem_cons.mp secondMem with rfl | secondMem
      · exact absurd rfl different
      · have shared := free second secondMem (Ne.symm different) sameKey.symm
        exact ⟨shared.2, shared.1⟩
    · rcases List.mem_cons.mp secondMem with rfl | secondMem
      · exact free first firstMem different sameKey
      · exact sound.compatible first firstMem second secondMem sameKey
          different
  · intro other isWritten
    rcases written other isWritten with ⟨held, member, rest⟩
    exact ⟨held, List.mem_cons_of_mem _ member, rest⟩
  · intro later isLater agrees
    have agreesBefore : AgreesLocked database owner later :=
      fun held member owned =>
        agrees held (List.mem_cons_of_mem _ member) owned
    have sameRow : own.view later key = own.view database.store key := by
      have locked := agrees ⟨owner, key, mode⟩ List.mem_cons_self rfl
      simp only at locked
      simp [Overlay.view, locked]
    have verifiedLock := (continues later isLater agreesBefore).1
    rw [sameRow] at verifiedLock
    exact verifiedLock hit
  · simp only [List.mem_cons]
    constructor
    · rintro (rfl | member)
      · exact absurd owned.symm different
      · exact member
    · exact Or.inr

/-- The next statement succeeds. -/
theorem advance_kept {reached : SessionTask Row Event Error Value}
    (sound : Sound rules initial database)
    (verified : Verified rules observes returns database owner
      (some (.running own rest)))
    (permitted : ∀ event ∈ rest.publishes,
      rules.permitted database.store event)
    (observed : observes rest database.store)
    (stepTo : advance database owner own rest = some (after, reached)) :
    StepKept rules observes returns initial owner database after (some reached) := by
  have ⟨written, floor, since, continues⟩ := verified
  have now := continues database.store (.refl sound.invariant)
    fun _ _ _ => rfl
  cases rest with
  | done value =>
      simp only [advance, Option.some.injEq, Prod.mk.injEq] at stepTo
      obtain ⟨rfl, rfl⟩ := stepTo
      exact .of_release sound ⟨database.store, .refl sound.invariant, now⟩
  | fail error =>
      simp only [advance, Option.some.injEq, Prod.mk.injEq] at stepTo
      obtain ⟨rfl, rfl⟩ := stepTo
      exact .of_release sound ⟨database.store, .refl sound.invariant, now⟩
  | read next failed =>
      simp only [advance, Option.some.injEq, Prod.mk.injEq] at stepTo
      obtain ⟨rfl, rfl⟩ := stepTo
      refine .of_unchanged sound ⟨written, database.store,
        rules.advances_refl _, fun later isLater agrees => ?_⟩
      exact (continues later isLater agrees).1 database.store since
        ⟨sound.invariant, isLater.advances⟩ observed
  | lock mode key wanted next failed =>
      simp only [advance] at stepTo
      split at stepTo
      · rename_i hit
        split at stepTo
        · rename_i lockable
          simp only [Option.some.injEq, Prod.mk.injEq] at stepTo
          obtain ⟨rfl, rfl⟩ := stepTo
          exact lock_kept sound verified hit lockable
        · contradiction
      · rename_i missed
        simp only [Option.some.injEq, Prod.mk.injEq] at stepTo
        obtain ⟨rfl, rfl⟩ := stepTo
        refine .of_unchanged sound ⟨written, database.store,
          rules.advances_refl _, fun later isLater agrees => ?_⟩
        exact (continues later isLater agrees).2.1 database.store since
          ⟨sound.invariant, isLater.advances⟩ (by simpa using missed)
  | write key row next =>
      simp only [advance] at stepTo
      split at stepTo
      · rename_i writable
        simp only [Option.some.injEq, Prod.mk.injEq] at stepTo
        obtain ⟨rfl, rfl⟩ := stepTo
        refine .of_unchanged sound ⟨fun other isWritten => ?_, floor, since,
          continues⟩
        by_cases same : other = key
        · subst same
          obtain ⟨held, member, locked⟩ := List.any_eq_true.mp writable
          simp only [Bool.and_eq_true, decide_eq_true_eq] at locked
          exact ⟨held, member, locked.1.1, locked.1.2, locked.2⟩
        · rw [Overlay.set, Function.update_of_ne same] at isWritten
          exact written other isWritten
      · contradiction
  | commit event next failed =>
      simp only [advance, Option.some.injEq, Prod.mk.injEq] at stepTo
      obtain ⟨rfl, rfl⟩ := stepTo
      exact commit_kept sound verified (permitted event rfl) (Or.inl rfl)
  | rollback next =>
      simp only [advance, Option.some.injEq, Prod.mk.injEq] at stepTo
      obtain ⟨rfl, rfl⟩ := stepTo
      exact .of_release sound ⟨fun key isWritten => absurd rfl isWritten,
        floor, since, fun later isLater _ => now later isLater⟩
  | emit event key row next failed =>
      simp only [advance] at stepTo
      split at stepTo
      · rename_i untouched
        simp only [Option.some.injEq, Prod.mk.injEq] at stepTo
        obtain ⟨rfl, rfl⟩ := stepTo
        exact emit_kept sound verified (permitted event rfl) untouched
          (Or.inl rfl)
      · contradiction

/-- The next statement fails without any effect. -/
theorem fault_kept {reached : SessionTask Row Event Error Value}
    (sound : Sound rules initial database)
    (verified : Verified rules observes returns database owner
      (some (.running own rest)))
    (stepTo : fault database owner own rest = some (after, reached)) :
    StepKept rules observes returns initial owner database after (some reached) := by
  obtain ⟨written, floor, since, continues⟩ := verified
  cases rest with
  | done value => simp [fault] at stepTo
  | fail error => simp [fault] at stepTo
  | read next failed =>
      simp only [fault, Option.some.injEq, Prod.mk.injEq] at stepTo
      obtain ⟨rfl, rfl⟩ := stepTo
      exact .of_unchanged sound ⟨written, floor, since,
        fun later isLater agrees => (continues later isLater agrees).2⟩
  | lock mode key wanted next failed =>
      simp only [fault, Option.some.injEq, Prod.mk.injEq] at stepTo
      obtain ⟨rfl, rfl⟩ := stepTo
      exact .of_unchanged sound ⟨written, floor, since,
        fun later isLater agrees => (continues later isLater agrees).2.2⟩
  | write key row next => simp [fault] at stepTo
  | commit event next failed =>
      simp only [fault, Option.some.injEq, Prod.mk.injEq] at stepTo
      obtain ⟨rfl, rfl⟩ := stepTo
      exact .of_release sound ⟨fun key isWritten => absurd rfl isWritten,
        floor, since, fun later isLater _ =>
          (continues database.store (.refl sound.invariant)
            fun _ _ _ => rfl).2 later isLater⟩
  | rollback next => simp [fault] at stepTo
  | emit event key row next failed =>
      simp only [fault, Option.some.injEq, Prod.mk.injEq] at stepTo
      obtain ⟨rfl, rfl⟩ := stepTo
      exact .of_unchanged sound ⟨written, floor, since,
        fun later isLater agrees => (continues later isLater agrees).2.2⟩

/-- The next publication happens, but reports a failure. -/
theorem loseAcknowledgement_kept
    {reached : SessionTask Row Event Error Value}
    (sound : Sound rules initial database)
    (verified : Verified rules observes returns database owner
      (some (.running own rest)))
    (permitted : ∀ event ∈ rest.publishes,
      rules.permitted database.store event)
    (stepTo : loseAcknowledgement database owner own rest =
      some (after, reached)) :
    StepKept rules observes returns initial owner database after (some reached) := by
  cases rest with
  | commit event next failed =>
      simp only [loseAcknowledgement, Option.some.injEq,
        Prod.mk.injEq] at stepTo
      obtain ⟨rfl, rfl⟩ := stepTo
      exact commit_kept sound verified (permitted event rfl) (Or.inr rfl)
  | emit event key row next failed =>
      simp only [loseAcknowledgement] at stepTo
      split at stepTo
      · rename_i untouched
        simp only [Option.some.injEq, Prod.mk.injEq] at stepTo
        obtain ⟨rfl, rfl⟩ := stepTo
        exact emit_kept sound verified (permitted event rfl) untouched
          (Or.inr rfl)
      · contradiction
  | _ => simp [loseAcknowledgement] at stepTo

end Steps

section Runs

variable {program : Request → Session Row Event Error Value}
variable {observes : Session Row Event Error Value → Store Row → Prop}
variable {returns : Value → Store Row → Prop} {initial : Store Row}

/-- Every session verifies from every store that satisfies the invariant. -/
def VerifiesAll (rules : Discipline Row Event Error)
    (observes : Session Row Event Error Value → Store Row → Prop)
    (program : Request → Session Row Event Error Value)
    (returns : Value → Store Row → Prop) : Prop :=
  ∀ request floor store, rules.invariant store → rules.advances floor store →
    rules.wpSince observes floor (program request) Overlay.none store
      fun value _ _ store => returns value store

theorem VerifiesAll.of_wp
    (verifies : ∀ request store, rules.invariant store →
      rules.wp (program request) Overlay.none store fun value _ store =>
        returns value store) :
    VerifiesAll rules observes program returns :=
  fun request _ store holds _ => wpSince_of_wp (verifies request store holds)

/-- Every permitted action keeps the discipline. -/
theorem act_kept (verifies : VerifiesAll rules observes program returns)
    {pool : Pool (Database Row Event) (SessionTask Row Event Error Value)}
    {owner : Nat} {label : SessionLabel Request}
    {after : Database Row Event}
    {task : Option (SessionTask Row Event Error Value)}
    (sound : Sound rules initial pool.world)
    (verified : Verified rules observes returns pool.world owner (pool.tasks owner))
    (allowed : publishesOnly rules.permitted pool (owner, label))
    (observed : observesOnly observes pool (owner, label))
    (acted : sessionAct program pool.world owner (pool.tasks owner) label =
      some (after, task)) :
    StepKept rules observes returns initial owner pool.world after task := by
  unfold sessionAct at acted
  split at acted
  · simp only [Option.some.injEq, Prod.mk.injEq] at acted
    obtain ⟨rfl, rfl⟩ := acted
    exact .of_unchanged sound ⟨fun key isWritten => absurd rfl isWritten,
      pool.world.store, rules.advances_refl _, fun later isLater _ =>
        verifies _ _ later isLater.invariant isLater.advances⟩
  · rename_i own rest running
    obtain ⟨⟨afterStep, reached⟩, stepTo, equal⟩ :=
      Option.map_eq_some_iff.mp acted
    simp only [Prod.mk.injEq] at equal
    obtain ⟨rfl, rfl⟩ := equal
    rw [running] at verified
    exact advance_kept sound verified
      (allowed own rest running (Or.inl rfl)) (observed own rest running rfl)
      stepTo
  · rename_i own rest running
    obtain ⟨⟨afterStep, reached⟩, stepTo, equal⟩ :=
      Option.map_eq_some_iff.mp acted
    simp only [Prod.mk.injEq] at equal
    obtain ⟨rfl, rfl⟩ := equal
    rw [running] at verified
    exact fault_kept sound verified stepTo
  · rename_i own rest running
    obtain ⟨⟨afterStep, reached⟩, stepTo, equal⟩ :=
      Option.map_eq_some_iff.mp acted
    simp only [Prod.mk.injEq] at equal
    obtain ⟨rfl, rfl⟩ := equal
    rw [running] at verified
    exact loseAcknowledgement_kept sound verified
      (allowed own rest running (Or.inr rfl)) stepTo
  · simp only [Option.some.injEq, Prod.mk.injEq] at acted
    obtain ⟨rfl, rfl⟩ := acted
    exact .of_release sound trivial
  · contradiction

/-- Soundness: every run whose publications and reads are permitted keeps the
discipline. -/
theorem sound_of_reaches (verifies : VerifiesAll rules observes program returns)
    (initially : rules.invariant initial)
    {allowed : Pool (Database Row Event)
      (SessionTask Row Event Error Value) →
      Nat × SessionLabel Request → Prop}
    (permits : ∀ pool label, allowed pool label →
      publishesOnly rules.permitted pool label ∧
        observesOnly observes pool label)
    {pool : Pool (Database Row Event) (SessionTask Row Event Error Value)}
    (run : Reaches (poolStep (sessionAct program)) allowed
      (Pool.idle (Database.fresh initial)) pool) :
    Holds (Sound rules initial) (Verified rules observes returns) pool := by
  refine Holds.reaches ?_ run ⟨⟨initially, ?_, .nil⟩, fun _ => trivial⟩
  · intro pool owner label after task holds permitted acted
    have ⟨publishes, observed⟩ := permits pool (owner, label) permitted
    have kept := act_kept verifies holds.shared (holds.own owner) publishes
      observed acted
    exact ⟨kept.sound, kept.own, fun other different =>
      (holds.own other).unaffected (kept.others other different)⟩
  · intro first member
    cases member

end Runs

end Discipline

end Sessions

end ZaloBot
