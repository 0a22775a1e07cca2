import ZaloBot.SessionEvents
import ZaloBot.SessionFootprints

/-!
# Triples for operations

An operation starts and ends outside any transaction.  A triple says what an
operation returns if it is called in a store that satisfies its precondition,
whatever other sessions publish in between; facts that survive everything the
discipline permits are carried along.  Conditions on reads are stated for all
programs at once, so that they are kept when more work follows.
-/

namespace ZaloBot

namespace Sessions

variable {Key : Type} {Row : Key → Type} [DecidableEq Key]
variable {Event Error Value Other : Type}

/-- A condition on reads that a program inherits from the program it is a part
of, as long as the work that follows is ordinary. -/
structure ReadPolicy {Key : Type} (Row : Key → Type) (Event Error : Type)
    where
  observes : ∀ {Value : Type}, Session Row Event Error Value →
    Store Row → Prop
  ordinary : ∀ {Value : Type}, Session Row Event Error Value → Prop
  bind : ∀ {Value Other : Type} {first : Session Row Event Error Value}
    {rest : Value → Session Row Event Error Other} {store : Store Row},
    (∀ value, ordinary (rest value)) → observes (first.bind rest) store →
      observes first store
  bindAttempt : ∀ {Value Other : Type}
    {first : Session Row Event Error Value}
    {rest : Except Error Value → Session Row Event Error Other}
    {store : Store Row}, (∀ value, ordinary (rest (.ok value))) →
      observes (first.attempt.bind rest) store → observes first.attempt store

/-- No condition on reads. -/
def ReadPolicy.free : ReadPolicy Row Event Error where
  observes _ _ := True
  ordinary _ := True
  bind _ _ := trivial
  bindAttempt _ _ := trivial

namespace Discipline

variable {rules : Discipline Row Event Error}
variable {own : Overlay Row} {store floor : Store Row}

/-- A weaker postcondition, under a stronger condition on reads. -/
theorem wpSince_mono
    {weaker observes : Session Row Event Error Value → Store Row → Prop}
    {session : Session Row Event Error Value}
    {strong weak : Value → Store Row → Overlay Row → Store Row → Prop}
    (observed : ∀ session store, observes session store →
      weaker session store)
    (implies : ∀ value floor own store, strong value floor own store →
      weak value floor own store)
    (verified : rules.wpSince weaker floor session own store strong) :
    rules.wpSince observes floor session own store weak := by
  induction session generalizing floor own store with
  | done value => exact implies _ _ _ _ verified
  | fail error => exact verified
  | read next failed ihNext ihFailed =>
      exact ⟨fun older since earlier sees => ihNext _
        (verified.1 older since earlier (observed _ _ sees)),
        ihFailed verified.2⟩
  | lock mode key wanted next failed ihNext ihFailed =>
      exact ⟨fun hit => ihNext _ (verified.1 hit),
        fun older since earlier missed =>
          ihNext _ (verified.2.1 older since earlier missed),
        ihFailed verified.2.2⟩
  | write key row next ihNext => exact ihNext verified
  | commit event next failed ihNext ihFailed =>
      refine ⟨fun permitted => ⟨(verified.1 permitted).1, ?_⟩, ?_⟩
      · intro later isLater
        have after := (verified.1 permitted).2 later isLater
        exact ⟨ihNext after.1, ihFailed after.2⟩
      · intro later isLater
        exact ihFailed (verified.2 later isLater)
  | rollback next ihNext =>
      exact fun later isLater => ihNext (verified later isLater)
  | emit event key row next failed ihNext ihFailed =>
      exact ⟨verified.1, ihNext verified.2.1, ihFailed verified.2.2⟩

/-- The first part of a session is verified without the order of
snapshots. -/
theorem wpSince_bind_of_wp {first : Session Row Event Error Value}
    {rest : Value → Session Row Event Error Other}
    {observes : Session Row Event Error Other → Store Row → Prop}
    {post : Other → Store Row → Overlay Row → Store Row → Prop}
    (verified : rules.wp first own store fun value own store =>
      ∀ floor, rules.wpSince observes floor (rest value) own store post) :
    rules.wpSince observes floor (first >>= rest) own store post := by
  rw [wpSince_bind]
  exact wpSince_mono (fun _ _ => id) (fun _ floor _ _ continues =>
    continues floor) (wpSince_of_wp verified)

/-- The same for an operation whose errors are kept as values. -/
theorem wpSince_mono_attempt
    {weaker observes :
      Session Row Event Error (Except Error Value) → Store Row → Prop}
    {session : Session Row Event Error Value}
    {strong weak :
      Except Error Value → Store Row → Overlay Row → Store Row → Prop}
    (observed : ∀ (session : Session Row Event Error Value) store,
      observes session.attempt store → weaker session.attempt store)
    (implies : ∀ value floor own store, strong value floor own store →
      weak value floor own store)
    (verified : rules.wpSince weaker floor session.attempt own store
      strong) :
    rules.wpSince observes floor session.attempt own store weak := by
  induction session generalizing floor own store with
  | done value => exact implies _ _ _ _ verified
  | fail error =>
      exact fun later isLater => implies _ _ _ _ (verified later isLater)
  | read next failed ihNext ihFailed =>
      exact ⟨fun older since earlier sees => ihNext _
        (verified.1 older since earlier
          (observed (.read next failed) older sees)),
        ihFailed verified.2⟩
  | lock mode key wanted next failed ihNext ihFailed =>
      exact ⟨fun hit => ihNext _ (verified.1 hit),
        fun older since earlier missed =>
          ihNext _ (verified.2.1 older since earlier missed),
        ihFailed verified.2.2⟩
  | write key row next ihNext => exact ihNext verified
  | commit event next failed ihNext ihFailed =>
      refine ⟨fun permitted => ⟨(verified.1 permitted).1, ?_⟩, ?_⟩
      · intro later isLater
        have after := (verified.1 permitted).2 later isLater
        exact ⟨ihNext after.1, ihFailed after.2⟩
      · intro later isLater
        exact ihFailed (verified.2 later isLater)
  | rollback next ihNext =>
      exact fun later isLater => ihNext (verified later isLater)
  | emit event key row next failed ihNext ihFailed =>
      exact ⟨verified.1, ihNext verified.2.1, ihFailed verified.2.2⟩

/-- The store in which a session ends comes after the one it started in and
after every snapshot it has seen. -/
theorem wpSince_tracks
    {observes : Session Row Event Error Value → Store Row → Prop}
    {session : Session Row Event Error Value}
    {post : Value → Store Row → Overlay Row → Store Row → Prop}
    (holds : rules.invariant store) (since : rules.advances floor store)
    (verified : rules.wpSince observes floor session own store post) :
    rules.wpSince observes floor session own store
      fun value floor own later => rules.Later store later ∧
        rules.advances floor later ∧ post value floor own later := by
  have further {store middle : Store Row}
      (advances : rules.advances store middle) (value : Value)
      (floor : Store Row) (own : Overlay Row) (later : Store Row)
      (facts : rules.Later middle later ∧ rules.advances floor later ∧
        post value floor own later) :
      rules.Later store later ∧ rules.advances floor later ∧
        post value floor own later :=
    ⟨facts.1.trans advances, facts.2⟩
  induction session generalizing floor own store with
  | done value => exact ⟨.refl holds, since, verified⟩
  | fail error => exact verified
  | read next failed ihNext ihFailed =>
      exact ⟨fun older newer earlier sees => ihNext _ holds earlier.advances
        (verified.1 older newer earlier sees), ihFailed holds since verified.2⟩
  | lock mode key wanted next failed ihNext ihFailed =>
      exact ⟨fun hit => ihNext _ holds since (verified.1 hit),
        fun older newer earlier missed => ihNext _ holds earlier.advances
          (verified.2.1 older newer earlier missed),
        ihFailed holds since verified.2.2⟩
  | write key row next ihNext => exact ihNext holds since verified
  | commit event next failed ihNext ihFailed =>
      refine ⟨fun permitted => ⟨(verified.1 permitted).1, ?_⟩, ?_⟩
      · intro later isLater
        have after := (verified.1 permitted).2 later isLater
        have published := rules.keeps holds (verified.1 permitted).1
        have advances := rules.advances_trans published.2 isLater.advances
        have sinceLater := rules.advances_trans since advances
        exact ⟨wpSince_mono (fun _ _ => id) (further advances)
            (ihNext isLater.invariant sinceLater after.1),
          wpSince_mono (fun _ _ => id) (further advances)
            (ihFailed isLater.invariant sinceLater after.2)⟩
      · intro later isLater
        exact wpSince_mono (fun _ _ => id) (further isLater.advances)
          (ihFailed isLater.invariant
            (rules.advances_trans since isLater.advances)
            (verified.2 later isLater))
  | rollback next ihNext =>
      intro later isLater
      exact wpSince_mono (fun _ _ => id) (further isLater.advances)
        (ihNext isLater.invariant
          (rules.advances_trans since isLater.advances)
          (verified later isLater))
  | emit event key row next failed ihNext ihFailed =>
      exact ⟨verified.1, ihNext holds since verified.2.1,
        ihFailed holds since verified.2.2⟩

/-- Verify a renamed session on its own. -/
theorem wpSince_mapEvent {NewEvent : Type}
    {rules : Discipline Row NewEvent Error} {rename : Event → NewEvent}
    {observes : Session Row NewEvent Error Value → Store Row → Prop}
    {session : Session Row Event Error Value}
    {post : Value → Store Row → Overlay Row → Store Row → Prop} :
    rules.wpSince observes floor (session.mapEvent rename) own store post ↔
      (rules.onEvents rename).wpSince
        (fun session => observes (session.mapEvent rename)) floor session own
        store post := by
  induction session generalizing floor own store with
  | done value => exact Iff.rfl
  | fail error => exact Iff.rfl
  | read next failed ihNext ihFailed =>
      simp only [Session.mapEvent, wpSince, ihNext, ihFailed,
        earlier_onEvents]
      exact Iff.rfl
  | lock mode key wanted next failed ihNext ihFailed =>
      simp only [Session.mapEvent, wpSince, ihNext, ihFailed,
        earlier_onEvents]
      exact Iff.rfl
  | write key row next ihNext => simp only [Session.mapEvent, wpSince, ihNext]
  | commit event next failed ihNext ihFailed =>
      simp only [Session.mapEvent, wpSince, ihNext, ihFailed, later_onEvents]
      exact Iff.rfl
  | rollback next ihNext =>
      simp only [Session.mapEvent, wpSince, ihNext, later_onEvents]
  | emit event key row next failed ihNext ihFailed =>
      simp only [Session.mapEvent, wpSince, ihNext, ihFailed,
        earlier_onEvents]
      exact Iff.rfl

/-- Verify a session whose errors are kept as values. -/
theorem wpSince_attempt
    {observes : Session Row Event Error (Except Error Value) →
      Store Row → Prop}
    {session : Session Row Event Error Value}
    {post : Except Error Value → Overlay Row → Store Row → Prop}
    {refusal : Error → Store Row → Prop}
    (refused : ∀ error store later, refusal error store →
      rules.Later store later → post (.error error) Overlay.none later)
    (verified : (rules.withRefusal refusal).wpSince
      (fun session => observes session.attempt) floor session own store
      fun value _ own store => post (.ok value) own store) :
    rules.wpSince observes floor session.attempt own store
      fun value _ own store => post value own store := by
  induction session generalizing floor own store with
  | done value => exact verified
  | fail error =>
      exact fun later isLater => refused error store later verified isLater
  | read next failed ihNext ihFailed =>
      exact ⟨fun older since isEarlier sees => ihNext _ (verified.1 older since
        (earlier_withRefusal.mpr isEarlier) sees), ihFailed verified.2⟩
  | lock mode key wanted next failed ihNext ihFailed =>
      exact ⟨fun hit => ihNext _ (verified.1 hit),
        fun older since isEarlier missed => ihNext _ (verified.2.1 older since
          (earlier_withRefusal.mpr isEarlier) missed), ihFailed verified.2.2⟩
  | write key row next ihNext => exact ihNext verified
  | commit event next failed ihNext ihFailed =>
      refine ⟨fun permitted => ⟨(verified.1 permitted).1, ?_⟩, ?_⟩
      · intro later isLater
        have after := (verified.1 permitted).2 later
          (later_withRefusal.mpr isLater)
        exact ⟨ihNext after.1, ihFailed after.2⟩
      · intro later isLater
        exact ihFailed (verified.2 later (later_withRefusal.mpr isLater))
  | rollback next ihNext =>
      exact fun later isLater =>
        ihNext (verified later (later_withRefusal.mpr isLater))
  | emit event key row next failed ihNext ihFailed =>
      exact ⟨fun now isEarlier => verified.1 now
        (earlier_withRefusal.mpr isEarlier), ihNext verified.2.1,
        ihFailed verified.2.2⟩

/-- What an operation establishes when it is called outside any
transaction. -/
def Triple (rules : Discipline Row Event Error)
    (policy : ReadPolicy Row Event Error) (pre : Store Row → Prop)
    (session : Session Row Event Error Value)
    (post : Value → Store Row → Prop) : Prop :=
  ∀ floor store, rules.invariant store → rules.advances floor store →
    pre store → rules.wpSince policy.observes floor session Overlay.none
      store fun value _ last later => last = Overlay.none ∧ post value later

namespace Triple

variable {policy : ReadPolicy Row Event Error}
variable {pre : Store Row → Prop} {post : Value → Store Row → Prop}
variable {session : Session Row Event Error Value}

theorem pure {value : Value} (returns : ∀ store, rules.invariant store →
    pre store → post value store) :
    rules.Triple policy pre (Pure.pure value) post :=
  fun _ store holds _ given => ⟨rfl, returns store holds given⟩

/-- A read whose failure has an answer of its own. -/
theorem read {ask : Store Row → Value} {missing : Value}
    (answered : ∀ older store, rules.Earlier older store → pre store →
      post (ask older) store)
    (failed : ∀ store, rules.invariant store → pre store →
      post missing store) :
    rules.Triple policy pre
      (.read (fun view => Pure.pure (ask view)) (Pure.pure missing)) post :=
  fun _ store holds _ given =>
    ⟨fun older _ earlier _ => ⟨rfl, answered older store earlier given⟩,
      rfl, failed store holds given⟩

/-- Facts about the store that every publication keeps. -/
def Stable (rules : Discipline Row Event Error)
    (fact : Store Row → Prop) : Prop :=
  ∀ store later, fact store → rules.Later store later → fact later

theorem consequence {weakPre : Store Row → Prop}
    {weakPost : Value → Store Row → Prop}
    (triple : rules.Triple policy pre session post)
    (before : ∀ store, rules.invariant store → weakPre store → pre store)
    (after : ∀ value store, rules.invariant store → post value store →
      weakPost value store) :
    rules.Triple policy weakPre session weakPost := by
  intro floor store holds since given
  refine wpSince_mono (fun _ _ => id) ?_ (wpSince_tracks holds since
    (triple floor store holds since (before store holds given)))
  rintro value _ last later ⟨isLater, _, nothing, returned⟩
  exact ⟨nothing, after value later isLater.invariant returned⟩

/-- Stable facts hold afterwards, too. -/
theorem carry {fact : Store Row → Prop} (stable : Stable rules fact)
    (triple : rules.Triple policy pre session post) :
    rules.Triple policy (fun store => pre store ∧ fact store) session
      fun value store => post value store ∧ fact store := by
  intro floor store holds since given
  refine wpSince_mono (fun _ _ => id) ?_ (wpSince_tracks holds since
    (triple floor store holds since given.1))
  rintro value _ last later ⟨isLater, _, nothing, returned⟩
  exact ⟨nothing, returned, stable store later given.2 isLater⟩

theorem bind {rest : Value → Session Row Event Error Other}
    {final : Other → Store Row → Prop}
    (first : rules.Triple policy pre session post)
    (ordinary : ∀ value, policy.ordinary (rest value))
    (continues : ∀ value, rules.Triple policy (post value) (rest value)
      final) :
    rules.Triple policy pre (session >>= rest) final := by
  intro floor store holds since given
  rw [wpSince_bind]
  refine wpSince_mono (fun _ _ sees => policy.bind ordinary sees) ?_
    (wpSince_tracks holds since (first floor store holds since given))
  rintro value newFloor last later ⟨isLater, newSince, rfl, returned⟩
  exact continues value newFloor later isLater.invariant newSince returned

/-- After an operation that is verified without any condition on reads. -/
theorem bindFree {rest : Value → Session Row Event Error Other}
    {final : Other → Store Row → Prop}
    (first : rules.Triple .free pre session post)
    (continues : ∀ value, rules.Triple policy (post value) (rest value)
      final) :
    rules.Triple policy pre (session >>= rest) final := by
  intro floor store holds since given
  rw [wpSince_bind]
  refine wpSince_mono (fun _ _ _ => trivial) ?_
    (wpSince_tracks holds since (first floor store holds since given))
  rintro value newFloor last later ⟨isLater, newSince, rfl, returned⟩
  exact continues value newFloor later isLater.invariant newSince returned

/-- An operation whose errors are handled by what follows. -/
theorem bindAttempt
    {rest : Except Error Value → Session Row Event Error Other}
    {middle : Except Error Value → Store Row → Prop}
    {final : Other → Store Row → Prop}
    (first : rules.Triple policy pre session.attempt middle)
    (ordinary : ∀ value, policy.ordinary (rest (.ok value)))
    (continues : ∀ value, rules.Triple policy (middle value) (rest value)
      final) :
    rules.Triple policy pre (session.attempt >>= rest) final := by
  intro floor store holds since given
  rw [wpSince_bind]
  refine wpSince_mono_attempt
    (fun _ _ sees => policy.bindAttempt ordinary sees) ?_
    (wpSince_tracks holds since (first floor store holds since given))
  rintro value newFloor last later ⟨isLater, newSince, rfl, returned⟩
  exact continues value newFloor later isLater.invariant newSince returned

/-- An operation verified without the order of snapshots. -/
theorem of_wp (verified : ∀ store, rules.invariant store → pre store →
    rules.wp session Overlay.none store fun value last later =>
      last = Overlay.none ∧ post value later) :
    rules.Triple policy pre session post :=
  fun _ store holds _ given => wpSince_of_wp (verified store holds given)

/-- An operation that publishes under other names. -/
theorem mapEvent {NewEvent : Type} {rules : Discipline Row NewEvent Error}
    {rename : Event → NewEvent}
    (triple : (rules.onEvents rename).Triple .free pre session post) :
    rules.Triple .free pre (session.mapEvent rename) post :=
  fun floor store holds since given =>
    wpSince_mapEvent.mpr (triple floor store holds since given)

/-- An operation whose errors are kept as values. -/
theorem attempt (triple : (rules.withRefusal fun _ _ => True).Triple .free pre
    session post) :
    rules.Triple .free pre session.attempt
      fun outcome store => ∀ value, outcome = .ok value →
        post value store := by
  intro floor store holds since given
  have verified := triple floor store holds since given
  have keeps : rules.wpSince (fun _ _ => True) floor session.attempt
      Overlay.none store fun outcome _ last later => last = Overlay.none ∧
        ∀ value, outcome = .ok value → post value later := by
    refine wpSince_attempt (fun _ _ _ (_ : True) _ => ⟨rfl, nofun⟩) ?_
    refine wpSince_mono (fun _ _ => id) ?_ verified
    rintro value _ last later ⟨nothing, returned⟩
    exact ⟨nothing, fun other same => Except.ok.inj same ▸ returned⟩
  exact keeps

/-- An operation that touches only rows about which the discipline asks
nothing. -/
theorem of_behaves {allowed : Key → Prop}
    {ends : Value → Overlay Row → Prop}
    (indifferent : ∀ before event after, rules.invariant before →
      (∀ key, ¬ allowed key → after key = before key) →
        rules.guarantee before event after)
    (refuses : ∀ error store, rules.invariant store →
      rules.refusal error store)
    (behaves : session.Behaves (fun key _ => allowed key)
      (fun _ key _ => allowed key) Overlay.none ends)
    (clean : ∀ value last, ends value last → last = Overlay.none) :
    rules.Triple policy pre session fun _ _ => True := by
  refine of_wp fun store holds _ => ?_
  refine wp_mono ?_ (wp_of_behaves indifferent refuses holds behaves
    fun _ _ => rfl)
  rintro value last later ⟨ended, _⟩
  exact ⟨clean value last ended, trivial⟩

end Triple

/-- A call that needs nothing before it, as one of the sessions that run. -/
theorem Triple.verifies {policy : ReadPolicy Row Event Error}
    {session : Session Row Event Error Value}
    {returns : Value → Store Row → Prop}
    (triple : rules.Triple policy (fun _ => True) session returns)
    (floor store : Store Row) (holds : rules.invariant store)
    (since : rules.advances floor store) :
    rules.wpSince policy.observes floor session Overlay.none store
      fun value _ _ later => returns value later := by
  refine wpSince_mono (fun _ _ => id) ?_
    (triple floor store holds since trivial)
  rintro value _ last later ⟨_, returned⟩
  exact returned

end Discipline

end Sessions

end ZaloBot
