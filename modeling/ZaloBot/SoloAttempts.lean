import ZaloBot.SessionEvents
import ZaloBot.SessionSolo

/-!
# Attempts of sessions that run alone

A session that runs alone and is attempted goes on after its errors, so it can
be evaluated through them: the part before an error keeps what it has committed
and loses what it has not.  Publishing under other names makes no difference.
-/

namespace ZaloBot

namespace Sessions

variable {Key : Type} {Row : Key → Type} [DecidableEq Key]
variable {Event NewEvent Error Value Other : Type}
variable {own middle last : Overlay Row} {store between after : Store Row}
variable {effects : Key → Prop}

section Ends

variable {database : Database Row Event}

theorem endsAlone_attempt {session : Session Row Event Error Value}
    {post : Except Error Value → Overlay Row → Database Row Event → Prop}
    (succeeded : endsAlone session own database fun value =>
      post (.ok value)) :
    endsAlone session.attempt own database post := by
  induction session generalizing own database with
  | done value => exact succeeded
  | fail error => contradiction
  | read next failed ihNext _ => exact ihNext _ succeeded
  | lock mode key wanted next failed ihNext _ =>
      simp only [Session.attempt, endsAlone] at succeeded ⊢
      split
      · rename_i hit
        rw [if_pos hit] at succeeded
        exact ⟨succeeded.1, ihNext _ succeeded.2⟩
      · rename_i missed
        rw [if_neg missed] at succeeded
        exact ihNext _ succeeded
  | write key row next ihNext => exact ⟨succeeded.1, ihNext succeeded.2⟩
  | commit event next failed ihNext _ => exact ihNext succeeded
  | rollback next ihNext => exact ihNext succeeded
  | emit event key row next failed ihNext _ =>
      exact ⟨succeeded.1, ihNext succeeded.2⟩

/-- An attempt of two sessions in a row goes on after the first one, or ends
with its error. -/
theorem endsAlone_attempt_bind {first : Session Row Event Error Value}
    {rest : Value → Session Row Event Error Other}
    {post : Except Error Other → Overlay Row → Database Row Event → Prop} :
    endsAlone (first >>= rest).attempt own database post ↔
      endsAlone first.attempt own database fun outcome own database =>
        match outcome with
        | .ok value => endsAlone (rest value).attempt own database post
        | .error error => post (.error error) own database := by
  change endsAlone (first.bind rest).attempt own database post ↔ _
  induction first generalizing own database with
  | done value => exact Iff.rfl
  | fail error => exact Iff.rfl
  | read next failed ihNext _ => exact ihNext _
  | lock mode key wanted next failed ihNext _ =>
      simp only [Session.bind, Session.attempt, endsAlone, ihNext]
  | write key row next ihNext =>
      simp only [Session.bind, Session.attempt, endsAlone, ihNext]
  | commit event next failed ihNext _ => exact ihNext
  | rollback next ihNext => exact ihNext
  | emit event key row next failed ihNext _ =>
      simp only [Session.bind, Session.attempt, endsAlone, ihNext]

/-- Events have no influence on how a session ends. -/
theorem endsAlone_mapEvent {session : Session Row Event Error Value}
    {rename : Event → NewEvent} {renamed : Database Row NewEvent}
    (post : Value → Overlay Row → Store Row → List (HeldLock Key) → Prop)
    (sameStore : renamed.store = database.store)
    (sameLocks : renamed.locks = database.locks)
    (succeeded : endsAlone session own database fun value own database =>
      post value own database.store database.locks) :
    endsAlone (session.mapEvent rename) own renamed
      fun value own database =>
        post value own database.store database.locks := by
  induction session generalizing own database renamed with
  | done value =>
      change post value own renamed.store renamed.locks
      rw [sameStore, sameLocks]
      exact succeeded
  | fail error => exact succeeded
  | read next failed ihNext _ =>
      simp only [Session.mapEvent, endsAlone, sameStore]
      exact ihNext _ sameStore sameLocks succeeded
  | lock mode key wanted next failed ihNext _ =>
      simp only [Session.mapEvent, endsAlone] at succeeded ⊢
      rw [← sameStore] at succeeded
      split
      · rename_i hit
        rw [if_pos hit] at succeeded
        have lockable : renamed.lockable 0 key mode = true := by
          simpa [Database.lockable, sameLocks] using succeeded.1
        exact ⟨lockable, ihNext _ rfl (by rw [sameLocks]) succeeded.2⟩
      · rename_i missed
        rw [if_neg missed] at succeeded
        exact ihNext _ sameStore sameLocks succeeded
  | write key row next ihNext =>
      refine ⟨?_, ihNext sameStore sameLocks succeeded.2⟩
      simpa [Database.writable, sameLocks] using succeeded.1
  | commit event next failed ihNext _ =>
      simp only [Session.mapEvent, endsAlone, sameStore]
      refine ihNext ?_ ?_ succeeded
      · rfl
      · simp [Database.publish, Database.release, sameLocks]
  | rollback next ihNext =>
      simp only [Session.mapEvent, endsAlone] at succeeded ⊢
      refine ihNext ?_ ?_ succeeded
      · exact sameStore
      · simp [Database.release, sameLocks]
  | emit event key row next failed ihNext _ =>
      simp only [Session.mapEvent, endsAlone, sameStore]
      refine ⟨?_, ihNext rfl ?_ succeeded.2⟩
      · simpa [Database.untouched, sameLocks] using succeeded.1
      · simp [Database.publish, sameLocks]

end Ends

section Parts

variable {error : Error} {key : Key}

theorem executes_insertRow_free {row : Row key} (lockable : ¬ effects key)
    (absent : own.view store key = none) :
    Executes effects
      (.insertRow error key row : Session Row Event Error Bool) own store
      true (own.set key (some row)) store := by
  rintro database rfl alone
  unfold Session.insertRow endsAlone
  simp only [absent, Option.isNone_none, if_true]
  exact ⟨alone.lockable, writable_lock, rfl, rfl, rfl, alone.lock lockable⟩

theorem executes_insertRow_taken {row old : Row key}
    (present : own.view store key = some old) :
    Executes effects
      (.insertRow error key row : Session Row Event Error Bool) own store
      false own store := by
  rintro database rfl alone
  unfold Session.insertRow endsAlone
  simp only [present, Option.isNone_some, Bool.false_eq_true, if_false]
  exact ⟨rfl, rfl, rfl, alone⟩

theorem executes_upsertRow {fresh : Row key} {change : Row key → Row key}
    (lockable : ¬ effects key) :
    Executes effects
      (.upsertRow error key fresh change : Session Row Event Error Unit) own
      store () (own.set key
        (some (((own.view store key).map change).getD fresh))) store := by
  rintro database rfl alone
  unfold Session.upsertRow endsAlone
  simp only [if_true]
  exact ⟨alone.lockable, writable_lock, trivial, rfl, rfl, alone.lock lockable⟩

theorem executes_attempt_fail :
    Executes effects
      (Session.fail error : Session Row Event Error Value).attempt own store
      (.error error) Overlay.none store := by
  rintro database rfl alone
  refine ⟨rfl, rfl, rfl, fun held member => ?_⟩
  exact alone held (List.mem_of_mem_filter member)

end Parts

section Sequences

variable {first session : Session Row Event Error Value}
variable {rest : Value → Session Row Event Error Other}
variable {value : Value} {error : Error} {result : Except Error Other}

theorem Executes.attempt
    (executes : Executes effects session own store value last after) :
    Executes effects session.attempt own store (.ok value) last after := by
  intro database same alone
  refine endsAlone_attempt (endsAlone_mono ?_ (executes database same alone))
  rintro _ _ _ ⟨rfl, rest⟩
  exact ⟨rfl, rest⟩

/-- An attempt goes on after a first part. -/
theorem Executes.attempt_bind
    (begins : Executes effects first own store value middle between)
    (ends : Executes effects (rest value).attempt middle between result last
      after) :
    Executes effects (first >>= rest).attempt own store result last after := by
  intro database same alone
  rw [endsAlone_attempt_bind]
  refine endsAlone_attempt (endsAlone_mono ?_ (begins database same alone))
  rintro _ _ reached ⟨rfl, rfl, sameReached, aloneReached⟩
  exact ends reached sameReached aloneReached

omit [DecidableEq Key] in
/-- Attempts publish under other names as well. -/
theorem attempt_mapEvent {rename : Event → NewEvent} :
    (session.mapEvent rename).attempt =
      session.attempt.mapEvent rename := by
  induction session with
  | done value => rfl
  | fail error => rfl
  | read next failed ihNext ihFailed =>
      simp only [Session.mapEvent, Session.attempt, ihNext, ihFailed]
  | lock mode key wanted next failed ihNext ihFailed =>
      simp only [Session.mapEvent, Session.attempt, ihNext, ihFailed]
  | write key row next ihNext =>
      simp only [Session.mapEvent, Session.attempt, ihNext]
  | commit event next failed ihNext ihFailed =>
      simp only [Session.mapEvent, Session.attempt, ihNext, ihFailed]
  | rollback next ihNext =>
      simp only [Session.mapEvent, Session.attempt, ihNext]
  | emit event key row next failed ihNext ihFailed =>
      simp only [Session.mapEvent, Session.attempt, ihNext, ihFailed]

/-- A session does the same under other events. -/
theorem Executes.mapEvent {rename : Event → NewEvent}
    (executes : Executes effects session own store value last after) :
    Executes effects (session.mapEvent rename) own store value last after := by
  rintro database rfl alone
  exact endsAlone_mapEvent
    (fun result reached store locks => result = value ∧ reached = last ∧
      store = after ∧ HeldAlone effects locks) rfl rfl
    (executes ⟨database.store, database.locks, []⟩ rfl alone)

end Sequences

end Sessions

end ZaloBot
