import Mathlib.Logic.Relation
import ZaloBot.SessionEvents
import ZaloBot.SessionFootprints

/-!
# Moves of rows

How a part of a transaction may rewrite a row, given what the row held.  A part
knows the rows that it has locked or written: they do not change under it until
it ends.  Whatever the store, the rows that a part leaves are reached by moves
from those that it found.
-/

namespace ZaloBot

namespace Sessions

variable {Key : Type} {Row : Key → Type}

section Chains

variable {Contents : Type} {step : Contents → Contents → Prop}
variable {first last : Contents}

/-- What steps leave alone while a guard holds stays. -/
theorem eq_of_chain_guarded (guard : Contents → Prop)
    (still : ∀ old new, step old new → guard old ∨ guard new → new = old)
    (chain : Relation.ReflTransGen step first last)
    (guarded : guard first ∨ guard last) : last = first := by
  induction chain with
  | refl => rfl
  | @tail middle last _ stepTo ih =>
      rcases guarded with begun | ended
      · have same := ih (.inl begun)
        exact (still _ _ stepTo (.inl (same ▸ begun))).trans same
      · have same := still _ _ stepTo (.inr ended)
        exact same.trans (ih (.inr (same ▸ ended)))

theorem eq_of_chain (still : ∀ old new, step old new → new = old)
    (chain : Relation.ReflTransGen step first last) : last = first :=
  eq_of_chain_guarded (fun _ => True)
    (fun _ _ stepTo _ => still _ _ stepTo) chain (.inl trivial)

/-- A property that no step breaks. -/
theorem chain_keeps (holds : Contents → Prop)
    (kept : ∀ old new, step old new → holds old → holds new)
    (chain : Relation.ReflTransGen step first last) (held : holds first) :
    holds last := by
  induction chain with
  | refl => exact held
  | tail _ stepTo ih => exact kept _ _ stepTo ih

/-- A property that holds at the end but not at the beginning was established
by a step. -/
theorem chain_establishes {holds : Contents → Prop}
    (chain : Relation.ReflTransGen step first last) (fresh : ¬ holds first)
    (held : holds last) :
    ∃ old new, step old new ∧ ¬ holds old ∧ holds new := by
  induction chain with
  | refl => exact absurd held fresh
  | @tail middle _ _ stepTo ih =>
      by_cases already : holds middle
      · exact ih already
      · exact ⟨middle, _, stepTo, already, held⟩

end Chains

/-- What one write may make of a row. -/
abbrev Moves (Row : Key → Type) :=
  ∀ key, Option (Row key) → Option (Row key) → Prop

/-- Every row is reached by moves from what it was. -/
def Moved (moves : Moves Row) (before after : Store Row) : Prop :=
  ∀ key, Relation.ReflTransGen (moves key) (before key) (after key)

namespace Moved

variable {moves : Moves Row} {before middle after : Store Row}

theorem refl (store : Store Row) : Moved moves store store :=
  fun _ => .refl

theorem trans (begun : Moved moves before middle)
    (ended : Moved moves middle after) : Moved moves before after :=
  fun key => (begun key).trans (ended key)

/-- A row that no move leads away from stays. -/
theorem eq_of_still {key : Key}
    (still : ∀ old new, moves key old new → new = old)
    (moved : Moved moves before after) : after key = before key :=
  eq_of_chain still (moved key)

end Moved

/-- What a row may hold as far as the known rows tell. -/
def Overlay.Admits (known : Overlay Row) (key : Key)
    (row : Option (Row key)) : Prop :=
  ∀ held, known key = some held → row = held

theorem Overlay.admits_none (key : Key) (row : Option (Row key)) :
    (Overlay.none : Overlay Row).Admits key row := by
  intro held isHeld
  simp [Overlay.none] at isHeld

variable [DecidableEq Key] {Event NewEvent Error Value Other : Type}

theorem Overlay.eq_of_admits_set {known : Overlay Row} {key : Key}
    {row held : Option (Row key)}
    (admits : (known.set key held).Admits key row) : row = held :=
  admits held (by simp [Overlay.set])

/-- The row that has been locked or written is known. -/
theorem Overlay.admits_set {known : Overlay Row} {view : Store Row}
    (knows : ∀ key, known.Admits key (view key)) (key : Key)
    (row : Option (Row key)) (other : Key) :
    (known.set key row).Admits other
      (Function.update view key row other) := by
  intro held isHeld
  by_cases same : other = key
  · subst same
    simp only [Overlay.set, Function.update_self, Option.some.injEq] at isHeld
    rw [Function.update_self, isHeld]
  · rw [Overlay.set, Function.update_of_ne same] at isHeld
    rw [Function.update_of_ne same]
    exact knows other held isHeld

namespace Session

variable {moves : Moves Row} {known : Overlay Row}

/-- Every write of a part of a transaction is a move from whatever the row may
hold; `post` is about its value and the rows it knows at its end. -/
def MovesRows (moves : Moves Row) (known : Overlay Row)
    (post : Value → Overlay Row → Prop) :
    Session Row Event Error Value → Prop
  | .done value => post value known
  | .fail _ => True
  | .read next failed =>
      (∀ view, (next view).MovesRows moves known post) ∧
        failed.MovesRows moves known post
  | .lock _ key wanted next failed =>
      (∀ row, known.Admits key row → wanted row = true →
        (next row).MovesRows moves (known.set key row) post) ∧
      (∀ row, wanted row = false → (next row).MovesRows moves known post) ∧
      failed.MovesRows moves known post
  | .write key row next =>
      (∀ old, known.Admits key old → moves key old row) ∧
        next.MovesRows moves (known.set key row) post
  | .commit _ _ _ => False
  | .rollback _ => False
  | .emit _ _ _ _ _ => False

/-- A part moves rows whatever it knows at its start. -/
abbrev Rewrites (moves : Moves Row) (session : Session Row Event Error Value) :
    Prop :=
  ∀ known, session.MovesRows moves known fun _ _ => True

theorem MovesRows.bind {first : Session Row Event Error Value}
    {rest : Value → Session Row Event Error Other}
    {middle : Value → Overlay Row → Prop} {post : Other → Overlay Row → Prop}
    (begins : first.MovesRows moves known middle)
    (continues : ∀ value last, middle value last →
      (rest value).MovesRows moves last post) :
    (first >>= rest).MovesRows moves known post := by
  change (first.bind rest).MovesRows moves known post
  induction first generalizing known with
  | done value => exact continues value known begins
  | fail error => trivial
  | read next failed ihNext ihFailed =>
      exact ⟨fun view => ihNext view (begins.1 view), ihFailed begins.2⟩
  | lock mode key wanted next failed ihNext ihFailed =>
      exact ⟨fun row admits hit => ihNext row (begins.1 row admits hit),
        fun row missed => ihNext row (begins.2.1 row missed),
        ihFailed begins.2.2⟩
  | write key row next ihNext => exact ⟨begins.1, ihNext begins.2⟩
  | commit event next failed => exact begins.elim
  | rollback next => exact begins.elim
  | emit event key row next failed => exact begins.elim

/-- The rest of a part moves rows whatever the first part has left known. -/
theorem MovesRows.andThen {first : Session Row Event Error Value}
    {rest : Value → Session Row Event Error Other}
    {middle : Value → Overlay Row → Prop}
    (begins : first.MovesRows moves known middle)
    (continues : ∀ value, (rest value).Rewrites moves) :
    (first >>= rest).MovesRows moves known fun _ _ => True :=
  begins.bind fun value last _ => continues value last

theorem Rewrites.bind {first : Session Row Event Error Value}
    {rest : Value → Session Row Event Error Other}
    (begins : first.Rewrites moves)
    (continues : ∀ value, (rest value).Rewrites moves) :
    (first >>= rest).Rewrites moves :=
  fun known => (begins known).andThen continues

/-- A part that writes only rows that may hold anything. -/
theorem WritesWithin.rewrites {allowed : Key → Prop} {fails : Error → Prop}
    {session : Session Row Event Error Value}
    (within : session.WritesWithin allowed fails)
    (free : ∀ key old new, allowed key → moves key old new) :
    session.Rewrites moves := by
  intro known
  induction session generalizing known with
  | done value => trivial
  | fail error => trivial
  | read next failed ihNext ihFailed =>
      exact ⟨fun view => ihNext view (within.1 view) known,
        ihFailed within.2 known⟩
  | lock mode key wanted next failed ihNext ihFailed =>
      exact ⟨fun row _ _ => ihNext row (within.1 row) _,
        fun row _ => ihNext row (within.1 row) _, ihFailed within.2 known⟩
  | write key row next ihNext =>
      exact ⟨fun old _ => free key old row within.1, ihNext within.2 _⟩
  | commit event next failed => exact within.elim
  | rollback next => exact within.elim
  | emit event key row next failed => exact within.elim

/-- A part that writes nothing. -/
theorem WritesWithin.rewrites_nothing {fails : Error → Prop}
    {session : Session Row Event Error Value}
    (reads : session.WritesWithin (fun _ => False) fails) :
    session.Rewrites moves :=
  reads.rewrites fun _ _ _ none => none.elim

/-- A known row stays known to a part that does not write it. -/
theorem Rewrites.keepsKnown {allowed : Key → Prop} {fails : Error → Prop}
    {session : Session Row Event Error Value} {key : Key}
    {held : Option (Row key)} (rewrites : session.Rewrites moves)
    (within : session.WritesWithin allowed fails) (forbidden : ¬ allowed key)
    (isKnown : known key = some held) :
    session.MovesRows moves known fun _ last => last key = some held := by
  have begins := rewrites known
  clear rewrites
  induction session generalizing known with
  | done value => exact isKnown
  | fail error => trivial
  | read next failed ihNext ihFailed =>
      exact ⟨fun view => ihNext view (within.1 view) isKnown (begins.1 view),
        ihFailed within.2 isKnown begins.2⟩
  | lock mode locked wanted next failed ihNext ihFailed =>
      refine ⟨fun row admits hit => ihNext row (within.1 row) ?_
          (begins.1 row admits hit),
        fun row missed => ihNext row (within.1 row) isKnown
          (begins.2.1 row missed),
        ihFailed within.2 isKnown begins.2.2⟩
      by_cases same : key = locked
      · subst same
        rw [admits held isKnown]
        simp [Overlay.set]
      · rw [Overlay.set, Function.update_of_ne same]
        exact isKnown
  | write written row next ihNext =>
      refine ⟨begins.1, ihNext within.2 ?_ begins.2⟩
      have different : key ≠ written := by
        rintro rfl
        exact forbidden within.1
      rw [Overlay.set, Function.update_of_ne different]
      exact isKnown
  | commit event next failed => exact begins.elim
  | rollback next => exact begins.elim
  | emit event key row next failed => exact begins.elim

theorem Rewrites.mapError {NewError : Type} {report : Error → NewError}
    {session : Session Row Event Error Value}
    (rewrites : session.Rewrites moves) :
    (session.mapError report).Rewrites moves := by
  intro known
  have begins := rewrites known
  clear rewrites
  induction session generalizing known with
  | done value => trivial
  | fail error => trivial
  | read next failed ihNext ihFailed =>
      exact ⟨fun view => ihNext view known (begins.1 view),
        ihFailed known begins.2⟩
  | lock mode key wanted next failed ihNext ihFailed =>
      exact ⟨fun row admits hit => ihNext row _ (begins.1 row admits hit),
        fun row missed => ihNext row _ (begins.2.1 row missed),
        ihFailed known begins.2.2⟩
  | write key row next ihNext => exact ⟨begins.1, ihNext _ begins.2⟩
  | commit event next failed => exact begins.elim
  | rollback next => exact begins.elim
  | emit event key row next failed => exact begins.elim

theorem Rewrites.mapEvent {rename : Event → NewEvent}
    {session : Session Row Event Error Value}
    (rewrites : session.Rewrites moves) :
    (session.mapEvent rename).Rewrites moves := by
  intro known
  have begins := rewrites known
  clear rewrites
  induction session generalizing known with
  | done value => trivial
  | fail error => trivial
  | read next failed ihNext ihFailed =>
      exact ⟨fun view => ihNext view known (begins.1 view),
        ihFailed known begins.2⟩
  | lock mode key wanted next failed ihNext ihFailed =>
      exact ⟨fun row admits hit => ihNext row _ (begins.1 row admits hit),
        fun row missed => ihNext row _ (begins.2.1 row missed),
        ihFailed known begins.2.2⟩
  | write key row next ihNext => exact ⟨begins.1, ihNext _ begins.2⟩
  | commit event next failed => exact begins.elim
  | rollback next => exact begins.elim
  | emit event key row next failed => exact begins.elim

section Statements

variable {error : Error} {key : Key}

theorem rewrites_pure {value : Value} :
    (pure value : Session Row Event Error Value).Rewrites moves :=
  fun _ => trivial

theorem rewrites_fail :
    (.fail error : Session Row Event Error Value).Rewrites moves :=
  fun _ => trivial

theorem rewrites_query {ask : Store Row → Value} :
    (query error ask : Session Row Event Error Value).Rewrites moves :=
  fun _ => ⟨fun _ => trivial, trivial⟩

/-- A selected row is known to what follows. -/
theorem movesRows_select {condition : Row key → Bool}
    {rest : Option (Row key) → Session Row Event Error Other}
    {post : Other → Overlay Row → Prop}
    (found : ∀ row, condition row = true → known.Admits key (some row) →
      (rest (some row)).MovesRows moves (known.set key (some row)) post)
    (missing : (rest none).MovesRows moves known post) :
    (selectForUpdate error key condition >>= rest).MovesRows moves known
      post := by
  refine ⟨fun row admits hit => ?_, fun row missed => ?_, trivial⟩
  · cases row with
    | none => simp at hit
    | some row =>
        have meets : condition row = true := by simpa using hit
        simp only [Option.filter_some, if_pos meets]
        exact found row meets admits
  · cases row with
    | none => exact missing
    | some row =>
        have fails : condition row = false := by simpa using missed
        simp only [Option.filter_some, fails, Bool.false_eq_true, if_false]
        exact missing

theorem movesRows_updateRow {condition : Row key → Bool}
    {change : Row key → Row key}
    (allowed : ∀ row, condition row = true → known.Admits key (some row) →
      moves key (some row) (some (change row))) :
    (updateRow error key condition change :
      Session Row Event Error _).MovesRows moves known fun _ _ => True := by
  refine ⟨fun row admits hit => ?_, fun row missed => ?_, trivial⟩
  · cases row with
    | none => simp at hit
    | some row =>
        have meets : condition row = true := by simpa using hit
        dsimp only
        rw [Option.filter_some, if_pos meets]
        refine ⟨fun old admitted => ?_, trivial⟩
        rw [Overlay.eq_of_admits_set admitted]
        exact allowed row meets admits
  · cases row with
    | none => trivial
    | some row =>
        have fails : condition row = false := by simpa using missed
        dsimp only
        rw [Option.filter_some, if_neg (by simp [fails])]
        trivial

theorem rewrites_updateRow {condition : Row key → Bool}
    {change : Row key → Row key}
    (allowed : ∀ row, condition row = true →
      moves key (some row) (some (change row))) :
    (updateRow error key condition change :
      Session Row Event Error _).Rewrites moves :=
  fun _ => movesRows_updateRow fun row meets _ => allowed row meets

theorem rewrites_insertRow {row : Row key}
    (allowed : moves key none (some row)) :
    (insertRow error key row : Session Row Event Error _).Rewrites moves := by
  intro known
  refine ⟨fun existing _ free => ?_, fun existing taken => ?_, trivial⟩
  · cases existing with
    | none =>
        refine ⟨fun old admitted => ?_, trivial⟩
        rw [Overlay.eq_of_admits_set admitted]
        exact allowed
    | some existing => simp at free
  · cases existing with
    | none => simp at taken
    | some existing => trivial

theorem rewrites_upsertRow {fresh : Row key} {change : Row key → Row key}
    (inserted : moves key none (some fresh))
    (updated : ∀ row, moves key (some row) (some (change row))) :
    (upsertRow error key fresh change :
      Session Row Event Error _).Rewrites moves := by
  intro known
  refine ⟨fun existing _ _ => ⟨fun old admitted => ?_, trivial⟩,
    fun existing missed => by simp at missed, trivial⟩
  rw [Overlay.eq_of_admits_set admitted]
  cases existing with
  | none => exact inserted
  | some row => exact updated row

end Statements

end Session

namespace Discipline

omit [DecidableEq Key] in
/-- A property that every guaranteed publication keeps holds all along a
log. -/
theorem Logged.preserves {rules : Discipline Row Event Error}
    {initial store : Store Row} {log : List (Publication Row Event)}
    (holds : Store Row → Prop)
    (keeps : ∀ before event after, rules.guarantee before event after →
      holds before → holds after)
    (logged : Logged rules initial log store) (initially : holds initial) :
    holds store ∧ ∀ publication ∈ log,
      holds publication.before ∧ holds publication.after := by
  induction logged with
  | nil => exact ⟨initially, by simp⟩
  | cons earlier _ _ guaranteed ih =>
      have kept := keeps _ _ _ guaranteed ih.1
      refine ⟨kept, fun publication member => ?_⟩
      rcases List.mem_cons.mp member with rfl | within
      · exact ⟨ih.1, kept⟩
      · exact ih.2 publication within

variable {rules : Discipline Row Event Error} {moves : Moves Row}

/-- Two postconditions at once. -/
theorem wp_and {session : Session Row Event Error Value}
    {own : Overlay Row} {store : Store Row}
    {left right : Value → Overlay Row → Store Row → Prop}
    (first : rules.wp session own store left)
    (second : rules.wp session own store right) :
    rules.wp session own store fun value last final =>
      left value last final ∧ right value last final := by
  induction session generalizing own store with
  | done value => exact ⟨first, second⟩
  | fail error => exact first
  | read next failed ihNext ihFailed =>
      exact ⟨fun older earlier => ihNext _ (first.1 older earlier)
        (second.1 older earlier), ihFailed first.2 second.2⟩
  | lock mode key wanted next failed ihNext ihFailed =>
      exact ⟨fun hit => ihNext _ (first.1 hit) (second.1 hit),
        fun older earlier missed => ihNext _ (first.2.1 older earlier missed)
          (second.2.1 older earlier missed), ihFailed first.2.2 second.2.2⟩
  | write key row next ihNext => exact ihNext first second
  | commit event next failed ihNext ihFailed =>
      refine ⟨fun permitted => ⟨(first.1 permitted).1,
        fun later isLater => ?_⟩, fun later isLater =>
          ihFailed (first.2 later isLater) (second.2 later isLater)⟩
      have afterFirst := (first.1 permitted).2 later isLater
      have afterSecond := (second.1 permitted).2 later isLater
      exact ⟨ihNext afterFirst.1 afterSecond.1,
        ihFailed afterFirst.2 afterSecond.2⟩
  | rollback next ihNext =>
      exact fun later isLater =>
        ihNext (first later isLater) (second later isLater)
  | emit event key row next failed ihNext ihFailed =>
      exact ⟨first.1, ihNext first.2.1 second.2.1,
        ihFailed first.2.2 second.2.2⟩

/-- The rows that a part leaves are reached by moves from those it found. -/
theorem wp_moves {session : Session Row Event Error Value}
    {known own : Overlay Row} {store : Store Row}
    {post : Value → Overlay Row → Prop}
    (refuses : ∀ error, rules.refusal error store)
    (begins : session.MovesRows moves known post)
    (knows : ∀ key, known.Admits key (own.view store key)) :
    rules.wp session own store fun _ last final =>
      final = store ∧ Moved moves (own.view store) (last.view store) := by
  induction session generalizing own known with
  | done value => exact ⟨rfl, .refl _⟩
  | fail error => exact refuses error
  | read next failed ihNext ihFailed =>
      exact ⟨fun older _ => ihNext _ (begins.1 _) knows,
        ihFailed begins.2 knows⟩
  | lock mode key wanted next failed ihNext ihFailed =>
      refine ⟨fun hit => ihNext _ (begins.1 _ (knows key) hit) ?_,
        fun older _ missed => ihNext _ (begins.2.1 _ missed) knows,
        ihFailed begins.2.2 knows⟩
      intro other
      have admitted := Overlay.admits_set knows key (own.view store key) other
      rwa [Function.update_eq_self] at admitted
  | write key row next ihNext =>
      have knowsNext : ∀ other, (known.set key row).Admits other
          ((own.set key row).view store other) := by
        intro other
        rw [Overlay.set_view]
        exact Overlay.admits_set knows key row other
      refine wp_mono ?_ (ihNext begins.2 knowsNext)
      rintro value last final ⟨same, moved⟩
      refine ⟨same, fun other => .trans ?_ (moved other)⟩
      by_cases same : other = key
      · subst same
        rw [Overlay.set_view_self]
        exact .single (begins.1 _ (knows other))
      · rw [Overlay.set_view_other same]
  | commit event next failed => exact begins.elim
  | rollback next => exact begins.elim
  | emit event key row next failed => exact begins.elim

/-- A part that moves rows whatever it knows. -/
theorem wp_rewrites {session : Session Row Event Error Value}
    {own : Overlay Row} {store : Store Row}
    (refuses : ∀ error, rules.refusal error store)
    (rewrites : session.Rewrites moves) :
    rules.wp session own store fun _ last final =>
      final = store ∧ Moved moves (own.view store) (last.view store) :=
  wp_moves refuses (rewrites Overlay.none) fun _ => Overlay.admits_none _ _

/-- What follows a part that moves rows. -/
theorem wp_bind_rewrites (moves : Moves Row)
    {first : Session Row Event Error Value}
    {rest : Value → Session Row Event Error Other} {own : Overlay Row}
    {store : Store Row} {post : Other → Overlay Row → Store Row → Prop}
    (refuses : ∀ error, rules.refusal error store)
    (rewrites : first.Rewrites moves)
    (continues : ∀ value last, Moved moves (own.view store) (last.view store) →
      rules.wp (rest value) last store post) :
    rules.wp (first >>= rest) own store post := by
  rw [wp_monad_bind]
  refine wp_mono ?_ (wp_rewrites refuses rewrites)
  rintro value last final ⟨rfl, moved⟩
  exact continues value last moved

end Discipline

end Sessions

end ZaloBot
