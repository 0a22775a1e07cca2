import ZaloBot.SessionFootprints
import ZaloBot.SessionTraces
import ZaloBot.UsageQuota

/-!
# Charges against usage counters

Any transactions at all may increment any counters, branch on what they read
and on the outcomes, and end in a commit or a rollback.  Each commit names the
charges of its transaction in order, together with what the transaction does on
the strength of a charge that was not exceeded.  In every run the committed
charges of a counter are numbered from one on without gaps, so the ones that
are not exceeded are exactly the first ones up to the limit.
-/

namespace ZaloBot

open Sessions

/-- The key columns of `usage_counters`. -/
structure CounterKey where
  scope : String
  scopeId : String
  period : String
  metric : String
deriving DecidableEq, Repr

@[reducible]
def CounterKey.key (counter : CounterKey) : BotKey :=
  .usageCounter counter.scope counter.scopeId counter.period counter.metric

theorem CounterKey.key_injective {first second : CounterKey}
    (same : first.key = second.key) : first = second := by
  cases first
  cases second
  simpa using same

def BotKey.isCounter : BotKey → Bool
  | .usageCounter _ _ _ _ => true
  | _ => false

theorem CounterKey.key_ne {counter : CounterKey} {key : BotKey}
    (other : key.isCounter = false) : counter.key ≠ key := by
  rintro rfl
  contradiction

/-- One increment with the counter it returned. -/
structure Charge where
  counter : CounterKey
  outcome : UsageCounterRow
deriving DecidableEq, Repr

/-- What is done only after a charge that is not exceeded, with the row that
it inserts. -/
inductive QuotaUse where
  | receiptAccepted (accountId : Uuid) (day : String) (submissionId : Uuid)
  | messageQueued (accountId : Uuid) (month idempotencyKey : String)
  | extractorCalled (month : String)
deriving DecidableEq, Repr

/-- The counter that a use is charged to. -/
def QuotaUse.counter : QuotaUse → CounterKey
  | .receiptAccepted accountId day _ =>
      ⟨UsageQuota.scopeAccount, accountId.text, day, UsageQuota.metricReceipts⟩
  | .messageQueued accountId month _ =>
      ⟨UsageQuota.scopeAccount, accountId.text, month,
        UsageQuota.metricZaloMessages⟩
  | .extractorCalled month =>
      ⟨UsageQuota.scopeGlobal, UsageQuota.globalScopeId, month,
        UsageQuota.metricExtractionPages⟩

inductive QuotaFact where
  | charged (charge : Charge)
  | used (use : QuotaUse)
deriving DecidableEq, Repr

/-- What a publication says about the counters, in the order in which it
happened. -/
abbrev QuotaEvent := List QuotaFact

namespace QuotaEvent

/-- The charges of an event. -/
def charges (event : QuotaEvent) : List Charge :=
  event.filterMap fun
    | .charged charge => some charge
    | .used _ => none

/-- How often an event does something on a counter's account. -/
def used (counter : CounterKey) (event : QuotaEvent) : Nat :=
  event.countP fun
    | .charged _ => false
    | .used use => use.counter = counter

@[simp]
theorem charges_append (first second : QuotaEvent) :
    charges (first ++ second) = charges first ++ charges second :=
  List.filterMap_append

@[simp]
theorem used_append (counter : CounterKey) (first second : QuotaEvent) :
    used counter (first ++ second) =
      used counter first + used counter second :=
  List.countP_append

@[simp]
theorem used_charged (counter : CounterKey) (charge : Charge) :
    used counter [.charged charge] = 0 :=
  rfl

theorem used_singleton (counter : CounterKey) (use : QuotaUse) :
    used counter [.used use] = if use.counter = counter then 1 else 0 := by
  simp [used, List.countP_singleton]

end QuotaEvent

/-- The outcomes of the charges against one counter, in order. -/
def outcomesOf (counter : CounterKey) (charges : List Charge) :
    List UsageCounterRow :=
  (charges.filter fun charge => charge.counter = counter).map Charge.outcome

/-- The charges against a counter that were not exceeded. -/
def granted (counter : CounterKey) (charges : List Charge) : Nat :=
  (outcomesOf counter charges).countP fun outcome => !outcome.exceeded

@[simp]
theorem outcomesOf_append (counter : CounterKey) (first second : List Charge) :
    outcomesOf counter (first ++ second) =
      outcomesOf counter first ++ outcomesOf counter second := by
  simp [outcomesOf]

@[simp]
theorem granted_append (counter : CounterKey) (first second : List Charge) :
    granted counter (first ++ second) =
      granted counter first + granted counter second := by
  simp [granted]

theorem granted_singleton (counter : CounterKey) (charge : Charge) :
    granted counter [charge] =
      if charge.counter = counter ∧ charge.outcome.exceeded = false then 1
      else 0 := by
  by_cases same : charge.counter = counter <;>
    simp [granted, outcomesOf, same, List.countP_singleton]

/-- Charges committed but not used yet. -/
abbrev Credit := CounterKey → Nat

section Charging

variable {Error Value Other : Type} {limit : CounterKey → Int}

/-- The counter after an increment. -/
def incremented (limit : Int) (row : Option UsageCounterRow) :
    UsageCounterRow :=
  ⟨(row.map UsageCounterRow.count).getD 0 + 1, limit⟩

/-- A session that touches counters only by increments against their limits,
names the charges of a transaction at its commit, and uses no more than it has
been granted.  `opened` are the charges of the open transaction and `credit`
the unused grants of the committed ones. -/
inductive Charges (limit : CounterKey → Int)
    (post : Value → List Charge → Credit → Prop) :
    List Charge → Credit → Session BotRow QuotaEvent Error Value → Prop where
  | done {opened credit value} (returns : post value opened credit) :
      Charges limit post opened credit (.done value)
  | fail {opened credit error} : Charges limit post opened credit (.fail error)
  | read {opened credit next failed}
      (continues : ∀ view, Charges limit post opened credit (next view))
      (fails : Charges limit post opened credit failed) :
      Charges limit post opened credit (.read next failed)
  | lock {opened credit mode key wanted next failed}
      (continues : ∀ row, Charges limit post opened credit (next row))
      (fails : Charges limit post opened credit failed) :
      Charges limit post opened credit (.lock mode key wanted next failed)
  | write {opened credit key row next} (other : key.isCounter = false)
      (continues : Charges limit post opened credit next) :
      Charges limit post opened credit (.write key row next)
  | increment {opened credit failed}
      {rest : UsageCounterRow → Session BotRow QuotaEvent Error Value}
      (counter : CounterKey)
      (continues : ∀ outcome,
        Charges limit post (opened ++ [⟨counter, outcome⟩]) credit
          (rest outcome))
      (fails : Charges limit post opened credit failed) :
      Charges limit post opened credit
        (.lock .exclusive counter.key (fun _ => true)
          (fun row => .write counter.key
            (some (incremented (limit counter) row))
            (rest (incremented (limit counter) row))) failed)
  | commit {opened credit event next failed}
      (named : event.charges = opened)
      (covered : ∀ counter, event.used counter ≤
        credit counter + granted counter event.charges)
      (continues : Charges limit post [] (fun counter => credit counter +
        granted counter event.charges - event.used counter) next)
      (fails : Charges limit post []
        (fun counter => credit counter - event.used counter) failed) :
      Charges limit post opened credit (.commit event next failed)
  | rollback {opened credit next}
      (continues : Charges limit post [] credit next) :
      Charges limit post opened credit (.rollback next)
  | emit {opened credit key row next failed} (other : key.isCounter = false)
      (continues : Charges limit post opened credit next)
      (fails : Charges limit post opened credit failed) :
      Charges limit post opened credit (.emit [] key row next failed)

namespace Charges

variable {post : Value → List Charge → Credit → Prop}
variable {opened : List Charge} {credit : Credit}

theorem bind {first : Session BotRow QuotaEvent Error Value}
    {rest : Value → Session BotRow QuotaEvent Error Other}
    {last : Other → List Charge → Credit → Prop}
    (begins : Charges limit post opened credit first)
    (continues : ∀ value opened credit, post value opened credit →
      Charges limit last opened credit (rest value)) :
    Charges limit last opened credit (first >>= rest) := by
  change Charges limit last opened credit (first.bind rest)
  induction begins with
  | done returns => exact continues _ _ _ returns
  | fail => exact .fail
  | read _ _ ihNext ihFailed => exact .read ihNext ihFailed
  | lock _ _ ihNext ihFailed => exact .lock ihNext ihFailed
  | write other _ ihNext => exact .write other ihNext
  | increment counter _ _ ihNext ihFailed =>
      exact .increment counter ihNext ihFailed
  | commit named covered _ _ ihNext ihFailed =>
      exact .commit named covered ihNext ihFailed
  | rollback _ ihNext => exact .rollback ihNext
  | emit other _ _ ihNext ihFailed => exact .emit other ihNext ihFailed

theorem mono {session : Session BotRow QuotaEvent Error Value}
    {weak : Value → List Charge → Credit → Prop}
    (charges : Charges limit post opened credit session)
    (implies : ∀ value opened credit, post value opened credit →
      weak value opened credit) :
    Charges limit weak opened credit session := by
  induction charges with
  | done returns => exact .done (implies _ _ _ returns)
  | fail => exact .fail
  | read _ _ ihNext ihFailed => exact .read ihNext ihFailed
  | lock _ _ ihNext ihFailed => exact .lock ihNext ihFailed
  | write other _ ihNext => exact .write other ihNext
  | increment counter _ _ ihNext ihFailed =>
      exact .increment counter ihNext ihFailed
  | commit named covered _ _ ihNext ihFailed =>
      exact .commit named covered ihNext ihFailed
  | rollback _ ihNext => exact .rollback ihNext
  | emit other _ _ ihNext ihFailed => exact .emit other ihNext ihFailed

end Charges

/-- The count of a counter, zero without a row. -/
def countOf (store : BotStore) (counter : CounterKey) : Int :=
  ((store counter.key).map UsageCounterRow.count).getD 0

/-- The counters that consecutive increments return. -/
def numberedFrom (start limit : Int) (length : Nat) : List UsageCounterRow :=
  (List.range length).map fun index : Nat => ⟨start + index + 1, limit⟩

theorem numberedFrom_append (start limit : Int) (first second : Nat) :
    numberedFrom start limit (first + second) =
      numberedFrom start limit first ++
        numberedFrom (start + first) limit second := by
  simp only [numberedFrom, List.range_add, List.map_append, List.map_map]
  congr 1
  apply List.map_congr_left
  intro index _
  simp [add_assoc]

/-- Charges that number each counter on from a store. -/
structure Counted (limit : CounterKey → Int) (before after : BotStore)
    (charges : List Charge) : Prop where
  numbered : ∀ counter, outcomesOf counter charges =
    numberedFrom (countOf before counter) (limit counter)
      (outcomesOf counter charges).length
  counted : ∀ counter, countOf after counter =
    countOf before counter + (outcomesOf counter charges).length

theorem Counted.refl (store : BotStore) : Counted limit store store [] :=
  ⟨fun _ => rfl, fun _ => by simp [outcomesOf]⟩

theorem Counted.trans {first middle last : BotStore}
    {earlier later : List Charge} (before : Counted limit first middle earlier)
    (after : Counted limit middle last later) :
    Counted limit first last (earlier ++ later) := by
  constructor
  · intro counter
    rw [outcomesOf_append, List.length_append, numberedFrom_append,
      ← before.numbered, ← before.counted, ← after.numbered]
  · intro counter
    rw [outcomesOf_append, List.length_append, after.counted,
      before.counted]
    push_cast
    exact Int.add_assoc _ _ _

/-- One more increment. -/
theorem Counted.increment {before : BotStore} {charges : List Charge}
    {own : Overlay BotRow}
    (counted : Counted limit before (own.view before) charges)
    (counter : CounterKey) :
    let outcome := incremented (limit counter)
      (own.view before counter.key)
    Counted limit before
      ((own.set counter.key (some outcome)).view before)
      (charges ++ [⟨counter, outcome⟩]) := by
  intro outcome
  refine counted.trans ⟨?_, ?_⟩
  · intro other
    by_cases same : counter = other
    · subst same
      simp [outcomesOf, numberedFrom, countOf, outcome, incremented]
    · simp [outcomesOf, same, numberedFrom]
  · intro other
    by_cases same : counter = other
    · subst same
      simp [outcomesOf, countOf, outcome, incremented]
    · have different : other.key ≠ counter.key := fun equal =>
        same (CounterKey.key_injective equal).symm
      simp [outcomesOf, same, countOf, Overlay.set_view_other different]

theorem Counted.writeOther {before after : BotStore} {charges : List Charge}
    {key : BotKey} (counted : Counted limit before after charges)
    (other : key.isCounter = false) (row : Option (BotRow key)) :
    Counted limit before (Function.update after key row) charges := by
  refine ⟨counted.numbered, fun counter => ?_⟩
  rw [← counted.counted, countOf, countOf,
    Function.update_of_ne (CounterKey.key_ne other)]

/-- Every publication numbers the counters on. -/
def quotaRules (limit : CounterKey → Int) (Error : Type) :
    Discipline BotRow QuotaEvent Error where
  invariant _ := True
  advances _ _ := True
  permitted _ _ := True
  guarantee before event after := Counted limit before after event.charges
  refusal _ _ := True
  advances_refl _ := trivial
  advances_trans _ _ := trivial
  keeps _ _ := ⟨trivial, trivial⟩

theorem Charges.wp {session : Session BotRow QuotaEvent Error Value}
    {post : Value → List Charge → Credit → Prop} {opened : List Charge}
    {credit : Credit} (charges : Charges limit post opened credit session)
    {own : Overlay BotRow} {store : BotStore}
    (counted : Counted limit store (own.view store) opened) :
    (quotaRules limit Error).wp session own store fun _ _ _ => True := by
  induction charges generalizing own store with
  | done returns => trivial
  | fail => trivial
  | read _ _ ihNext ihFailed =>
      exact ⟨fun older _ => ihNext _ counted, ihFailed counted⟩
  | lock _ _ ihNext ihFailed =>
      exact ⟨fun _ => ihNext _ counted, fun older _ _ => ihNext _ counted,
        ihFailed counted⟩
  | write other _ ihNext =>
      refine ihNext ?_
      rw [Overlay.set_view]
      exact counted.writeOther other _
  | increment counter _ _ ihNext ihFailed =>
      exact ⟨fun _ => ihNext _ (counted.increment counter),
        fun older _ refused => by contradiction, ihFailed counted⟩
  | commit named covered _ _ ihNext ihFailed =>
      subst named
      exact ⟨fun _ => ⟨counted, fun later _ =>
        ⟨ihNext (.refl later), ihFailed (.refl later)⟩⟩,
        fun later _ => ihFailed (.refl later)⟩
  | rollback _ ihNext => exact fun later _ => ihNext (.refl later)
  | emit other _ _ ihNext ihFailed =>
      exact ⟨fun now _ _ => (Counted.refl now).writeOther other _,
        ihNext counted, ihFailed counted⟩

/-- The state of a session between two statements: the second half of an
increment writes the counter. -/
def Charging (limit : CounterKey → Int)
    (post : Value → List Charge → Credit → Prop) (credit : Credit)
    (session : Session BotRow QuotaEvent Error Value) : Prop :=
  ∃ opened, Charges limit post opened credit session ∨
    ∃ key row next, session = .write key row next ∧
      Charges limit post opened credit next

/-- A statement that publishes an event takes what the event uses from the
credit and adds what it is granted. -/
theorem Charging.step {session rest : Session BotRow QuotaEvent Error Value}
    {post : Value → List Charge → Credit → Prop} {credit : Credit}
    {published : Option QuotaEvent}
    (charging : Charging limit post credit session)
    (taken : session.Step published rest) :
    ∃ left : Credit, Charging limit post left rest ∧
      ∀ counter, left counter +
          (published.toList.map (QuotaEvent.used counter)).sum ≤
        credit counter + (published.toList.map
          fun event => granted counter event.charges).sum := by
  obtain ⟨opened, charges | ⟨key, row, next, rfl, charges⟩⟩ := charging
  · cases charges with
    | done => cases taken
    | fail => cases taken
    | read continues fails =>
        cases taken with
        | read view => exact ⟨credit, ⟨opened, .inl (continues view)⟩, by simp⟩
        | readFailed => exact ⟨credit, ⟨opened, .inl fails⟩, by simp⟩
    | lock continues fails =>
        cases taken with
        | lock row => exact ⟨credit, ⟨opened, .inl (continues row)⟩, by simp⟩
        | lockFailed => exact ⟨credit, ⟨opened, .inl fails⟩, by simp⟩
    | write other continues =>
        cases taken with
        | write => exact ⟨credit, ⟨opened, .inl continues⟩, by simp⟩
    | increment counter continues fails =>
        cases taken with
        | lock row =>
            exact ⟨credit, ⟨_, .inr ⟨_, _, _, rfl, continues _⟩⟩, by simp⟩
        | lockFailed => exact ⟨credit, ⟨opened, .inl fails⟩, by simp⟩
    | commit named covered continues fails =>
        cases taken with
        | commit =>
            refine ⟨_, ⟨[], .inl continues⟩, fun counter => ?_⟩
            have enough := covered counter
            simp only [Option.toList_some, List.map_cons, List.map_nil,
              List.sum_cons, List.sum_nil]
            omega
        | commitFailed =>
            refine ⟨_, ⟨[], .inl fails⟩, fun counter => ?_⟩
            simp
        | commitUnacknowledged =>
            refine ⟨_, ⟨[], .inl fails⟩, fun counter => ?_⟩
            have enough := covered counter
            simp only [Option.toList_some, List.map_cons, List.map_nil,
              List.sum_cons, List.sum_nil]
            omega
    | rollback continues =>
        cases taken with
        | rollback => exact ⟨credit, ⟨[], .inl continues⟩, by simp⟩
    | emit other continues fails =>
        cases taken with
        | emit =>
            exact ⟨credit, ⟨opened, .inl continues⟩,
              by simp [QuotaEvent.used, QuotaEvent.charges]⟩
        | emitFailed => exact ⟨credit, ⟨opened, .inl fails⟩, by simp⟩
        | emitUnacknowledged =>
            exact ⟨credit, ⟨opened, .inl fails⟩,
              by simp [QuotaEvent.used, QuotaEvent.charges]⟩
  · cases taken with
    | write => exact ⟨credit, ⟨opened, .inl charges⟩, by simp⟩

/-- A session uses no more than it has been granted. -/
theorem Charges.traces {first rest : Session BotRow QuotaEvent Error Value}
    {post : Value → List Charge → Credit → Prop} {events : List QuotaEvent}
    (charges : Charges limit post [] (fun _ => 0) first)
    (traces : first.Traces events rest) (counter : CounterKey) :
    (events.map (QuotaEvent.used counter)).sum ≤
      (events.map fun event => granted counter event.charges).sum := by
  have kept : ∃ left : Credit, Charging limit post left rest ∧
      ∀ counter, left counter + (events.map (QuotaEvent.used counter)).sum ≤
        (events.map fun event => granted counter event.charges).sum := by
    induction traces with
    | start => exact ⟨fun _ => 0, ⟨[], .inl charges⟩, by simp⟩
    | step _ taken ih =>
        obtain ⟨credit, charging, bounded⟩ := ih
        obtain ⟨left, continues, spends⟩ := charging.step taken
        refine ⟨left, continues, fun counter => ?_⟩
        have before := bounded counter
        have now := spends counter
        simp only [List.map_append, List.sum_append]
        omega
  obtain ⟨left, _, bounded⟩ := kept
  have total := bounded counter
  omega

end Charging

end ZaloBot
