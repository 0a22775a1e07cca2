import ZaloBot.SessionOutcomes

/-!
# Sessions under other events

A session that runs as part of a larger one publishes under the events of the
larger one, for example under the name of the worker that runs it.  Verifying
it there is verifying it on its own against the discipline that reads its
events through the renaming.
-/

namespace ZaloBot

namespace Sessions

variable {Key : Type} {Row : Key → Type} [DecidableEq Key]
variable {Event NewEvent Error Value Other : Type}

/-- Publish the events of a session under other names. -/
def Session.mapEvent (rename : Event → NewEvent)
    (session : Session Row Event Error Value) :
    Session Row NewEvent Error Value :=
  match session with
  | .done value => .done value
  | .fail error => .fail error
  | .read next failed =>
      .read (fun view => (next view).mapEvent rename) (failed.mapEvent rename)
  | .lock mode key wanted next failed =>
      .lock mode key wanted (fun row => (next row).mapEvent rename)
        (failed.mapEvent rename)
  | .write key row next => .write key row (next.mapEvent rename)
  | .commit event next failed =>
      .commit (rename event) (next.mapEvent rename) (failed.mapEvent rename)
  | .rollback next => .rollback (next.mapEvent rename)
  | .emit event key row next failed =>
      .emit (rename event) key row (next.mapEvent rename)
        (failed.mapEvent rename)

namespace Discipline

/-- A discipline that reads events through a renaming. -/
def onEvents (rules : Discipline Row NewEvent Error)
    (rename : Event → NewEvent) : Discipline Row Event Error where
  invariant := rules.invariant
  advances := rules.advances
  permitted store event := rules.permitted store (rename event)
  guarantee before event after := rules.guarantee before (rename event) after
  refusal := rules.refusal
  advances_refl := rules.advances_refl
  advances_trans := rules.advances_trans
  keeps := rules.keeps

variable {rules : Discipline Row NewEvent Error} {rename : Event → NewEvent}

omit [DecidableEq Key] in
@[simp]
theorem later_onEvents {store later : Store Row} :
    (rules.onEvents rename).Later store later ↔ rules.Later store later :=
  ⟨fun ⟨holds, advances⟩ => ⟨holds, advances⟩,
    fun ⟨holds, advances⟩ => ⟨holds, advances⟩⟩

omit [DecidableEq Key] in
@[simp]
theorem earlier_onEvents {older store : Store Row} :
    (rules.onEvents rename).Earlier older store ↔ rules.Earlier older store :=
  ⟨fun ⟨holds, advances⟩ => ⟨holds, advances⟩,
    fun ⟨holds, advances⟩ => ⟨holds, advances⟩⟩

/-- Verify a renamed session on its own. -/
theorem wp_mapEvent {session : Session Row Event Error Value}
    {own : Overlay Row} {store : Store Row}
    {post : Value → Overlay Row → Store Row → Prop} :
    rules.wp (session.mapEvent rename) own store post ↔
      (rules.onEvents rename).wp session own store post := by
  induction session generalizing own store with
  | done value => exact Iff.rfl
  | fail error => exact Iff.rfl
  | read next failed ihNext ihFailed =>
      simp only [Session.mapEvent, wp, ihNext, ihFailed, earlier_onEvents]
  | lock mode key wanted next failed ihNext ihFailed =>
      simp only [Session.mapEvent, wp, ihNext, ihFailed, earlier_onEvents]
  | write key row next ihNext => simp only [Session.mapEvent, wp, ihNext]
  | commit event next failed ihNext ihFailed =>
      simp only [Session.mapEvent, wp, ihNext, ihFailed, later_onEvents]
      exact Iff.rfl
  | rollback next ihNext =>
      simp only [Session.mapEvent, wp, ihNext, later_onEvents]
  | emit event key row next failed ihNext ihFailed =>
      simp only [Session.mapEvent, wp, ihNext, ihFailed, earlier_onEvents]
      exact Iff.rfl

end Discipline

end Sessions

end ZaloBot
