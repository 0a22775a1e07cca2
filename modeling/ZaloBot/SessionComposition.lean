import ZaloBot.SessionTriples

/-!
# Disciplines that hold together

A session that is verified under two disciplines keeps any third one whose
invariant and order are at least as strong as theirs and whose guarantee
follows from both of their guarantees.  A discipline can thus be refined step
by step: each refinement is verified on top of what is known already.
-/

namespace ZaloBot

namespace Sessions

namespace Discipline

variable {Key : Type} {Row : Key → Type}
variable {Event Error Value : Type}

/-- A discipline that follows from two others. -/
structure Combines (first second both : Discipline Row Event Error) :
    Prop where
  invariant : ∀ {store}, both.invariant store →
    first.invariant store ∧ second.invariant store
  advances : ∀ {before after}, both.advances before after →
    first.advances before after ∧ second.advances before after
  permitted : ∀ {store event}, both.permitted store event →
    first.permitted store event ∧ second.permitted store event
  guarantee : ∀ {before event after}, both.invariant before →
    first.guarantee before event after →
      second.guarantee before event after → both.guarantee before event after
  refusal : ∀ {error store}, first.refusal error store →
    second.refusal error store → both.refusal error store

namespace Combines

variable {first second both : Discipline Row Event Error}
variable {store other : Store Row}

theorem later (combines : Combines first second both)
    (isLater : both.Later store other) :
    first.Later store other ∧ second.Later store other :=
  ⟨⟨(combines.invariant isLater.invariant).1,
      (combines.advances isLater.advances).1⟩,
    ⟨(combines.invariant isLater.invariant).2,
      (combines.advances isLater.advances).2⟩⟩

theorem earlier (combines : Combines first second both)
    (isEarlier : both.Earlier store other) :
    first.Earlier store other ∧ second.Earlier store other :=
  ⟨⟨(combines.invariant isEarlier.invariant).1,
      (combines.advances isEarlier.advances).1⟩,
    ⟨(combines.invariant isEarlier.invariant).2,
      (combines.advances isEarlier.advances).2⟩⟩

variable [DecidableEq Key] {own : Overlay Row} {floor : Store Row}

/-- A session that keeps both disciplines. -/
theorem wpSince {session : Session Row Event Error Value}
    {observes : Session Row Event Error Value → Store Row → Prop}
    {post facts : Value → Store Row → Overlay Row → Store Row → Prop}
    (combines : Combines first second both) (holds : both.invariant store)
    (begins : first.wpSince observes floor session own store post)
    (ends : second.wpSince observes floor session own store facts) :
    both.wpSince observes floor session own store
      fun value floor own store =>
        post value floor own store ∧ facts value floor own store := by
  induction session generalizing floor own store with
  | done value => exact ⟨begins, ends⟩
  | fail error => exact combines.refusal begins ends
  | read next failed ihNext ihFailed =>
      refine ⟨fun older since isEarlier sees => ?_,
        ihFailed holds begins.2 ends.2⟩
      have sinceBoth := combines.advances since
      have earlierBoth := combines.earlier isEarlier
      exact ihNext _ holds (begins.1 older sinceBoth.1 earlierBoth.1 sees)
        (ends.1 older sinceBoth.2 earlierBoth.2 sees)
  | lock mode key wanted next failed ihNext ihFailed =>
      refine ⟨fun hit => ihNext _ holds (begins.1 hit) (ends.1 hit),
        fun older since isEarlier missed => ?_,
        ihFailed holds begins.2.2 ends.2.2⟩
      have sinceBoth := combines.advances since
      have earlierBoth := combines.earlier isEarlier
      exact ihNext _ holds (begins.2.1 older sinceBoth.1 earlierBoth.1 missed)
        (ends.2.1 older sinceBoth.2 earlierBoth.2 missed)
  | write key row next ihNext => exact ihNext holds begins ends
  | commit event next failed ihNext ihFailed =>
      refine ⟨fun permitted => ?_, fun later isLater => ?_⟩
      · have permittedBoth := combines.permitted permitted
        have begun := begins.1 permittedBoth.1
        have ended := ends.1 permittedBoth.2
        refine ⟨combines.guarantee holds begun.1 ended.1, ?_⟩
        intro later isLater
        have laterBoth := combines.later isLater
        have begunLater := begun.2 later laterBoth.1
        have endedLater := ended.2 later laterBoth.2
        exact ⟨ihNext isLater.invariant begunLater.1 endedLater.1,
          ihFailed isLater.invariant begunLater.2 endedLater.2⟩
      · have laterBoth := combines.later isLater
        exact ihFailed isLater.invariant (begins.2 later laterBoth.1)
          (ends.2 later laterBoth.2)
  | rollback next ihNext =>
      intro later isLater
      have laterBoth := combines.later isLater
      exact ihNext isLater.invariant (begins later laterBoth.1)
        (ends later laterBoth.2)
  | emit event key row next failed ihNext ihFailed =>
      refine ⟨fun now isEarlier permitted => ?_,
        ihNext holds begins.2.1 ends.2.1, ihFailed holds begins.2.2 ends.2.2⟩
      have earlierBoth := combines.earlier isEarlier
      have permittedBoth := combines.permitted permitted
      exact combines.guarantee isEarlier.invariant
        (begins.1 now earlierBoth.1 permittedBoth.1)
        (ends.1 now earlierBoth.2 permittedBoth.2)

/-- An operation that keeps both disciplines. -/
theorem triple {policy : ReadPolicy Row Event Error}
    {session : Session Row Event Error Value} {pre : Store Row → Prop}
    {post facts : Value → Store Row → Prop}
    (combines : Combines first second both)
    (begins : first.Triple policy pre session post)
    (ends : second.Triple policy pre session facts) :
    both.Triple policy pre session
      fun value store => post value store ∧ facts value store := by
  intro floor store holds since given
  have holdsBoth := combines.invariant holds
  have sinceBoth := combines.advances since
  refine wpSince_mono (fun _ _ => id) ?_ (combines.wpSince holds
    (begins floor store holdsBoth.1 sinceBoth.1 given)
    (ends floor store holdsBoth.2 sinceBoth.2 given))
  rintro value _ last later ⟨⟨nothing, returned⟩, _, known⟩
  exact ⟨nothing, returned, known⟩

end Combines

end Discipline

end Sessions

end ZaloBot
