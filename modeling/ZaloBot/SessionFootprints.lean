import ZaloBot.SessionOutcomes

/-!
# Footprints of sessions

What a session writes and what effects it has outside the database, along
every path it can take, together with the uncommitted writes it ends with.
Unlike a weakest precondition, a footprint does not refer to any store: reads
and locks may return anything.
-/

namespace ZaloBot

namespace Sessions

namespace Session

variable {Key : Type} {Row : Key → Type} [DecidableEq Key]
variable {Event Error Value Other : Type}
variable {writes : ∀ key : Key, Option (Row key) → Prop}
variable {emits : Event → ∀ key : Key, Option (Row key) → Prop}

/-- All writes and all outside effects of a session are as described, and it
returns its values as described. -/
def Behaves (writes : ∀ key : Key, Option (Row key) → Prop)
    (emits : Event → ∀ key : Key, Option (Row key) → Prop)
    (session : Session Row Event Error Value) (own : Overlay Row)
    (post : Value → Overlay Row → Prop) : Prop :=
  match session with
  | .done value => post value own
  | .fail _ => True
  | .read next failed =>
      (∀ view, Behaves writes emits (next view) own post) ∧
        Behaves writes emits failed own post
  | .lock _ _ _ next failed =>
      (∀ row, Behaves writes emits (next row) own post) ∧
        Behaves writes emits failed own post
  | .write key row next =>
      writes key row ∧ Behaves writes emits next (own.set key row) post
  | .commit _ next failed =>
      Behaves writes emits next Overlay.none post ∧
        Behaves writes emits failed Overlay.none post
  | .rollback next => Behaves writes emits next Overlay.none post
  | .emit event key row next failed =>
      emits event key row ∧ Behaves writes emits next own post ∧
        Behaves writes emits failed own post

theorem Behaves.mono {session : Session Row Event Error Value}
    {own : Overlay Row} {strong weak : Value → Overlay Row → Prop}
    (implies : ∀ value own, strong value own → weak value own)
    (behaves : session.Behaves writes emits own strong) :
    session.Behaves writes emits own weak := by
  induction session generalizing own with
  | done value => exact implies value own behaves
  | fail error => trivial
  | read next failed ihNext ihFailed =>
      exact ⟨fun view => ihNext view (behaves.1 view), ihFailed behaves.2⟩
  | lock mode key wanted next failed ihNext ihFailed =>
      exact ⟨fun row => ihNext row (behaves.1 row), ihFailed behaves.2⟩
  | write key row next ihNext => exact ⟨behaves.1, ihNext behaves.2⟩
  | commit event next failed ihNext ihFailed =>
      exact ⟨ihNext behaves.1, ihFailed behaves.2⟩
  | rollback next ihNext => exact ihNext behaves
  | emit event key row next failed ihNext ihFailed =>
      exact ⟨behaves.1, ihNext behaves.2.1, ihFailed behaves.2.2⟩

theorem Behaves.bind {first : Session Row Event Error Value}
    {rest : Value → Session Row Event Error Other} {own : Overlay Row}
    {middle : Value → Overlay Row → Prop} {post : Other → Overlay Row → Prop}
    (begins : first.Behaves writes emits own middle)
    (continues : ∀ value own, middle value own →
      (rest value).Behaves writes emits own post) :
    (first >>= rest).Behaves writes emits own post := by
  change (first.bind rest).Behaves writes emits own post
  induction first generalizing own with
  | done value => exact continues value own begins
  | fail error => trivial
  | read next failed ihNext ihFailed =>
      exact ⟨fun view => ihNext view (begins.1 view), ihFailed begins.2⟩
  | lock mode key wanted next failed ihNext ihFailed =>
      exact ⟨fun row => ihNext row (begins.1 row), ihFailed begins.2⟩
  | write key row next ihNext => exact ⟨begins.1, ihNext begins.2⟩
  | commit event next failed ihNext ihFailed =>
      exact ⟨ihNext begins.1, ihFailed begins.2⟩
  | rollback next ihNext => exact ihNext begins
  | emit event key row next failed ihNext ihFailed =>
      exact ⟨begins.1, ihNext begins.2.1, ihFailed begins.2.2⟩

/-- The rest of a session behaves whatever its first part has left. -/
theorem Behaves.andThen {first : Session Row Event Error Value}
    {rest : Value → Session Row Event Error Other} {own : Overlay Row}
    {post : Other → Overlay Row → Prop}
    (begins : first.Behaves writes emits own fun _ _ => True)
    (continues : ∀ value own, (rest value).Behaves writes emits own post) :
    (first >>= rest).Behaves writes emits own post :=
  begins.bind fun value own _ => continues value own

/-- Errors kept as values leave no uncommitted writes. -/
theorem Behaves.attempt {session : Session Row Event Error Value}
    {own : Overlay Row} {post : Except Error Value → Overlay Row → Prop}
    (behaves : session.Behaves writes emits own fun value => post (.ok value))
    (failed : ∀ error, post (.error error) Overlay.none) :
    session.attempt.Behaves writes emits own post := by
  induction session generalizing own with
  | done value => exact behaves
  | fail error => exact failed error
  | read next failed ihNext ihFailed =>
      exact ⟨fun view => ihNext view (behaves.1 view), ihFailed behaves.2⟩
  | lock mode key wanted next failed ihNext ihFailed =>
      exact ⟨fun row => ihNext row (behaves.1 row), ihFailed behaves.2⟩
  | write key row next ihNext => exact ⟨behaves.1, ihNext behaves.2⟩
  | commit event next failed ihNext ihFailed =>
      exact ⟨ihNext behaves.1, ihFailed behaves.2⟩
  | rollback next ihNext => exact ihNext behaves
  | emit event key row next failed ihNext ihFailed =>
      exact ⟨behaves.1, ihNext behaves.2.1, ihFailed behaves.2.2⟩

/-- A part of a transaction that writes only rows about which nothing is
required. -/
theorem WritesWithin.behaves {allowed : Key → Prop} {fails : Error → Prop}
    {session : Session Row Event Error Value} {own : Overlay Row}
    (within : session.WritesWithin allowed fails)
    (free : ∀ key row, allowed key → writes key row) :
    session.Behaves writes emits own fun _ _ => True := by
  induction session generalizing own with
  | done value => trivial
  | fail error => trivial
  | read next failed ihNext ihFailed =>
      exact ⟨fun view => ihNext view (within.1 view), ihFailed within.2⟩
  | lock mode key wanted next failed ihNext ihFailed =>
      exact ⟨fun row => ihNext row (within.1 row), ihFailed within.2⟩
  | write key row next ihNext =>
      exact ⟨free key row within.1, ihNext within.2⟩
  | commit event next failed => exact within.elim
  | rollback next => exact within.elim
  | emit event key row next failed => exact within.elim

/-- Nothing is required. -/
theorem behaves_any {session : Session Row Event Error Value}
    {own : Overlay Row} :
    session.Behaves (fun _ _ => True) (fun _ _ _ => True) own
      fun _ _ => True := by
  induction session generalizing own with
  | done value => trivial
  | fail error => trivial
  | read next failed ihNext ihFailed => exact ⟨fun _ => ihNext _, ihFailed⟩
  | lock mode key wanted next failed ihNext ihFailed =>
      exact ⟨fun _ => ihNext _, ihFailed⟩
  | write key row next ihNext => exact ⟨trivial, ihNext⟩
  | commit event next failed ihNext ihFailed => exact ⟨ihNext, ihFailed⟩
  | rollback next ihNext => exact ihNext
  | emit event key row next failed ihNext ihFailed =>
      exact ⟨trivial, ihNext, ihFailed⟩

/-- A part of a transaction that writes nothing. -/
theorem WritesWithin.behaves_same {fails : Error → Prop}
    {session : Session Row Event Error Value} {own : Overlay Row}
    (reads : session.WritesWithin (fun _ => False) fails) :
    session.Behaves writes emits own fun _ last => last = own := by
  induction session generalizing own with
  | done value => rfl
  | fail error => trivial
  | read next failed ihNext ihFailed =>
      exact ⟨fun view => ihNext view (reads.1 view), ihFailed reads.2⟩
  | lock mode key wanted next failed ihNext ihFailed =>
      exact ⟨fun row => ihNext row (reads.1 row), ihFailed reads.2⟩
  | write key row next => exact reads.1.elim
  | commit event next failed => exact reads.elim
  | rollback next => exact reads.elim
  | emit event key row next failed => exact reads.elim

section Statements

variable {own : Overlay Row} {error : Error} {key : Key}

theorem behaves_query {ask : Store Row → Value}
    {post : Value → Overlay Row → Prop}
    (answered : ∀ view, post (ask view) own) :
    (query error ask : Session Row Event Error Value).Behaves writes emits
      own post :=
  ⟨answered, trivial⟩

theorem behaves_insertRow {row : Row key}
    {post : Bool → Overlay Row → Prop} (allowed : writes key (some row))
    (taken : post false own)
    (inserted : post true (own.set key (some row))) :
    (insertRow error key row : Session Row Event Error Bool).Behaves writes
      emits own post := by
  refine ⟨fun existing => ?_, trivial⟩
  cases existing with
  | some _ => exact taken
  | none => exact ⟨allowed, inserted⟩

theorem behaves_selectForUpdate {condition : Row key → Bool}
    {post : Option (Row key) → Overlay Row → Prop}
    (selected : ∀ row, post row own) :
    (selectForUpdate error key condition :
      Session Row Event Error _).Behaves writes emits own post :=
  ⟨fun _ => selected _, trivial⟩

theorem behaves_updateRow {condition : Row key → Bool}
    {change : Row key → Row key} {post : Bool → Overlay Row → Prop}
    (allowed : ∀ row, writes key (some (change row)))
    (missed : post false own)
    (updated : ∀ row, post true (own.set key (some (change row)))) :
    (updateRow error key condition change :
      Session Row Event Error _).Behaves writes emits own post := by
  refine ⟨fun row => ?_, trivial⟩
  dsimp only
  split
  · exact missed
  · exact ⟨allowed _, updated _⟩

theorem behaves_commitTransaction {event : Event}
    {post : Unit → Overlay Row → Prop} (committed : post () Overlay.none) :
    (commitTransaction error event : Session Row Event Error _).Behaves
      writes emits own post :=
  ⟨committed, trivial⟩

end Statements

end Session

namespace Discipline

variable {Key : Type} {Row : Key → Type} [DecidableEq Key]
variable {Event Error Value : Type} {rules : Discipline Row Event Error}
variable {allowed : Key → Prop} {own : Overlay Row} {store : Store Row}

/-- A session that touches only certain rows is verified by a discipline that
asks nothing of publications which leave all other rows alone. -/
theorem wp_of_behaves {session : Session Row Event Error Value}
    {post : Value → Overlay Row → Prop}
    (indifferent : ∀ before event after, rules.invariant before →
      (∀ key, ¬ allowed key → after key = before key) →
        rules.guarantee before event after)
    (refuses : ∀ error store, rules.invariant store →
      rules.refusal error store)
    (holds : rules.invariant store)
    (behaves : session.Behaves (fun key _ => allowed key)
      (fun _ key _ => allowed key) own post)
    (unwritten : ∀ key, ¬ allowed key → own key = none) :
    rules.wp session own store fun value last _ =>
      post value last ∧ ∀ key, ¬ allowed key → last key = none := by
  induction session generalizing own store with
  | done value => exact ⟨behaves, unwritten⟩
  | fail error => exact refuses error store holds
  | read next failed ihNext ihFailed =>
      exact ⟨fun older _ => ihNext _ holds (behaves.1 _) unwritten,
        ihFailed holds behaves.2 unwritten⟩
  | lock mode key wanted next failed ihNext ihFailed =>
      exact ⟨fun _ => ihNext _ holds (behaves.1 _) unwritten,
        fun older _ _ => ihNext _ holds (behaves.1 _) unwritten,
        ihFailed holds behaves.2 unwritten⟩
  | write key row next ihNext =>
      refine ihNext holds behaves.2 fun other forbidden => ?_
      have different : other ≠ key := by
        rintro rfl
        exact forbidden behaves.1
      rw [Overlay.set, Function.update_of_ne different]
      exact unwritten other forbidden
  | commit event next failed ihNext ihFailed =>
      have kept : rules.guarantee store event (own.view store) := by
        refine indifferent store event _ holds fun key forbidden => ?_
        simp [Overlay.view, unwritten key forbidden]
      refine ⟨fun _ => ⟨kept, fun later isLater => ?_⟩,
        fun later isLater => ?_⟩
      · have holdsLater := isLater.invariant
        exact ⟨ihNext holdsLater behaves.1 fun _ _ => rfl,
          ihFailed holdsLater behaves.2 fun _ _ => rfl⟩
      · exact ihFailed isLater.invariant behaves.2 fun _ _ => rfl
  | rollback next ihNext =>
      exact fun later isLater =>
        ihNext isLater.invariant behaves fun _ _ => rfl
  | emit event key row next failed ihNext ihFailed =>
      refine ⟨fun now earlier _ => indifferent now event _ earlier.invariant
        fun other forbidden => ?_, ihNext holds behaves.2.1 unwritten,
        ihFailed holds behaves.2.2 unwritten⟩
      have different : other ≠ key := by
        rintro rfl
        exact forbidden behaves.1
      exact Function.update_of_ne different _ _

end Discipline

end Sessions

end ZaloBot
