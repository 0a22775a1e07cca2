import ZaloBot.IngressIsolation
import ZaloBot.IngressOrders

/-!
# Histories of expenses and pending actions

An expense is settled at most once, by an event of its owner, and a pending
action is consumed under one version once, whatever calls run side by side.
-/

namespace ZaloBot

open Sessions LabelledRuns TaskPool

namespace Ingress

section Expenses

variable {accountId : Option Uuid} {effects : List IngressEffect} {id : Uuid}

theorem Progresses.expense {before after : BotStore}
    (progresses : Progresses before after) (id : Uuid) :
    ExpenseOrder (before (.expense id)) (after (.expense id)) := by
  refine Relation.reflTransGen_le_of_le ?_ _ _
    (progresses.rows (.expense id) rfl)
  rintro old new ⟨event, move⟩
  obtain ⟨request, accountId, effects, rfl⟩ := moves_processed move
  exact ExpenseMove.order move

/-- The effects that settle an expense as it is settled. -/
def SettledBy (effects : List IngressEffect) (id : Uuid) (row : ExpenseRow) :
    Prop :=
  ∃ version,
    (.confirmExpense id version ∈ effects ∧ row.state = .confirmed ∧
        row.version = version + 1) ∨
    (.rejectExpense id version ∈ effects ∧ row.state = .rejected ∧
        row.version = version + 1) ∨
    ∃ submissionId, .confirmReceipt submissionId id version ∈ effects ∧
      row.state = .confirmed ∧ row.receiptSubmissionId = some submissionId

/-- The expense is there and settled. -/
def IsSettled (id : Uuid) (store : BotStore) : Prop :=
  ∃ row, store (.expense id) = some row ∧ row.state ≠ .awaitingConfirmation

/-- A publication settles the expense. -/
def Settles (id : Uuid) (publication : Publication BotRow IngressEvent) :
    Prop :=
  ¬ IsSettled id publication.before ∧ IsSettled id publication.after

theorem IsSettled.of_progresses {before after : BotStore}
    (settled : IsSettled id before) (progresses : Progresses before after) :
    IsSettled id after := by
  obtain ⟨row, present, isSettled⟩ := settled
  obtain ⟨next, isNext, stays⟩ := progresses.expense id row present
  refine ⟨next, isNext, ?_⟩
  rw [stays.settled isSettled]
  exact isSettled

/-- Moves leave an expense awaiting, or settled as asked for. -/
theorem ExpenseMove.settles {old new : Option ExpenseRow}
    (move : ExpenseMove accountId effects id old new)
    (settledBefore : ∀ row, old = some row →
      row.state = .awaitingConfirmation ∨ SettledBy effects id row) :
    ∀ row, new = some row →
      row.state = .awaitingConfirmation ∨ SettledBy effects id row := by
  intro found present
  cases move with
  | entered owner =>
      cases present
      exact .inl rfl
  | settled row state isOwner awaiting asked =>
      cases present
      rcases asked with ⟨asked, rfl⟩ | ⟨asked, rfl⟩
      · exact .inr ⟨row.version, .inl ⟨asked, rfl, rfl⟩⟩
      · exact .inr ⟨row.version, .inr (.inl ⟨asked, rfl, rfl⟩)⟩
  | edited row edit isOwner awaiting =>
      cases present
      exact .inl awaiting
  | recategorized row categoryKey =>
      cases present
      exact settledBefore row rfl
  | booked owner submissionId draft isOwner asked =>
      cases present
      exact .inr ⟨draft.version, .inr (.inr ⟨submissionId, asked, rfl, rfl⟩)⟩

/-- An effect that settles the expense did so. -/
theorem SettlesAs.settles {publication : Publication BotRow IngressEvent}
    {owner : Uuid} {version : Int} {state : ExpenseState}
    (settlesAs : SettlesAs owner version state
      (publication.before (.expense id)) (publication.after (.expense id)))
    (isSettled : state ≠ .awaitingConfirmation) :
    Settles id publication := by
  obtain ⟨awaiting, row, present, rfl, _⟩ := settlesAs
  refine ⟨?_, row, present, isSettled⟩
  rintro ⟨old, isOld, settled⟩
  exact settled (awaiting old isOld).1

/-- A row that changes is moved by the event of an account. -/
theorem moves_expense {event : IngressEvent} {old new : Option ExpenseRow}
    (move : event.moves (.expense id) old new) :
    ∃ request owner effects, event = .processed request (some owner) effects ∧
      ExpenseMove (some owner) effects id old new := by
  obtain ⟨request, accountId, effects, rfl⟩ := moves_processed move
  have expenseMove : ExpenseMove accountId effects id old new := move
  have isOwner : ∃ owner, accountId = some owner := by
    cases expenseMove with
    | entered _ _ _ _ _ _ _ _ isOwner | settled _ _ isOwner
    | edited _ _ isOwner | recategorized _ _ isOwner
    | booked _ _ _ isOwner => exact ⟨_, isOwner⟩
  obtain ⟨owner, rfl⟩ := isOwner
  exact ⟨request, owner, effects, rfl, expenseMove⟩

/-- An expense is settled as an event of its owner asks for. -/
theorem CommitsEvent.settles {origin before after : BotStore} {event : IngressEvent}
    (commits : CommitsEvent origin before event after)
    (fresh : ¬ IsSettled id before) (settled : IsSettled id after) :
    ∃ request owner effects row,
      event = .processed request (some owner) effects ∧
      after (.expense id) = some row ∧ row.accountId = owner ∧
      row.state ≠ .awaitingConfirmation ∧ SettledBy effects id row := by
  obtain ⟨row, present, isSettled⟩ := settled
  have changed : after (.expense id) ≠ before (.expense id) := by
    intro same
    exact fresh ⟨row, same.symm.trans present, isSettled⟩
  obtain ⟨old, new, move⟩ := commits.moved.exists_move rfl changed
  obtain ⟨request, owner, effects, rfl, _⟩ := moves_expense move
  have moved : Relation.ReflTransGen
      (ExpenseMove (some owner) effects id) (before (.expense id))
      (after (.expense id)) := commits.moved (.expense id) rfl
  have owned : ∀ row, after (.expense id) = some row →
      row.accountId = owner := by
    rcases Relation.ReflTransGen.cases_tail moved with same | ⟨_, _, last⟩
    · exact absurd same changed
    · intro row present
      exact (Option.some.inj (last.owned.2 row present)).symm
  have asked := chain_keeps (fun contents : Option ExpenseRow =>
      ∀ row, contents = some row →
        row.state = .awaitingConfirmation ∨ SettledBy effects id row)
    (fun _ _ step => step.settles) moved fun row present => by
      by_cases awaiting : row.state = .awaitingConfirmation
      · exact .inl awaiting
      · exact absurd ⟨row, present, awaiting⟩ fresh
  exact ⟨request, owner, effects, row, rfl, present, owned row present,
    isSettled, (asked row present).resolve_left isSettled⟩

end Expenses

section Conversations

variable {effects : List IngressEffect}

/-- An effect that may change the pending action. -/
def Touches (effect : IngressEffect) : Prop :=
  effect.arms.isSome = true ∨ effect = .confirmAccountDeletion ∨
    ∃ version, effect = .clearPendingAction version

theorem ConversationMove.touches {old new : Option ConversationRow}
    (move : ConversationMove effects old new) :
    ∃ effect ∈ effects, Touches effect := by
  cases move with
  | begun pending asked | armed row pending asked =>
      obtain ⟨effect, member, arms⟩ := asked
      exact ⟨effect, member, .inl (by simp [arms])⟩
  | cleared row asked => exact ⟨_, asked, .inr (.inr ⟨_, rfl⟩)⟩
  | abandoned row asked => exact ⟨_, asked, .inr (.inl rfl)⟩

/-- A pending action that was not there is armed by an effect. -/
theorem ConversationMove.arms {old new : Option ConversationRow}
    {pending : PendingColumns} (move : ConversationMove effects old new)
    (fresh : ¬ ∃ row, old = some row ∧ row.pending = some pending)
    (armed : ∃ row, new = some row ∧ row.pending = some pending) :
    ∃ effect ∈ effects, effect.arms = some pending := by
  obtain ⟨row, rfl, isPending⟩ := armed
  cases move with
  | begun _ asked | armed _ _ asked =>
      cases isPending
      exact asked
  | cleared | abandoned => contradiction

theorem moves_conversation {event : IngressEvent} {id : Uuid}
    {old new : Option ConversationRow}
    (move : event.moves (.conversationState id) old new) :
    ∃ request effects, event = .processed request (some id) effects ∧
      ConversationMove effects old new := by
  obtain ⟨request, accountId, effects, rfl⟩ := moves_processed move
  obtain ⟨rfl, conversationMove⟩ := move
  exact ⟨request, effects, rfl, conversationMove⟩

/-- A publication changes the conversation that has the version. -/
def Replaces (id : Uuid) (version : Int)
    (publication : Publication BotRow IngressEvent) : Prop :=
  ∃ row, publication.before (.conversationState id) = some row ∧
    row.version = version ∧
    publication.after (.conversationState id) ≠ some row

/-- A publication clears the pending action under the version. -/
def Clears (id : Uuid) (version : Int)
    (publication : Publication BotRow IngressEvent) : Prop :=
  ∃ request effects, publication.event = .processed request (some id) effects ∧
    .clearPendingAction version ∈ effects

/-- The version of the conversation has been left. -/
def IsReplaced (id : Uuid) (version : Int) (store : BotStore) : Prop :=
  ∃ row, store (.conversationState id) = some row ∧ version < row.version

theorem IsReplaced.of_progresses {id : Uuid} {version : Int}
    {before after : BotStore} (replaced : IsReplaced id version before)
    (progresses : Progresses before after) : IsReplaced id version after := by
  obtain ⟨row, present, newer⟩ := replaced
  obtain ⟨next, isNext, grows, _⟩ := progresses.conversation id row present
  exact ⟨next, isNext, newer.trans_le grows⟩

theorem CommitsEvent.replaces {origin : BotStore} {id : Uuid} {version : Int}
    {publication : Publication BotRow IngressEvent}
    (commits : CommitsEvent origin publication.before publication.event
      publication.after)
    (replaces : Replaces id version publication) :
    ¬ IsReplaced id version publication.before ∧
      IsReplaced id version publication.after := by
  obtain ⟨row, present, rfl, changed⟩ := replaces
  obtain ⟨next, isNext, grows, same⟩ :=
    commits.progresses.conversation id row present
  constructor
  · rintro ⟨other, isOther, newer⟩
    rw [present] at isOther
    cases isOther
    exact newer.false
  · refine ⟨next, isNext, lt_of_le_of_ne grows fun sameVersion => ?_⟩
    exact changed (isNext.trans (congrArg some (same sameVersion.symm)))

theorem CommitsEvent.clears {origin : BotStore} {id : Uuid} {version : Int}
    {publication : Publication BotRow IngressEvent}
    (commits : CommitsEvent origin publication.before publication.event
      publication.after) (clears : Clears id version publication) :
    ¬ IsReplaced id version publication.before ∧
      IsReplaced id version publication.after := by
  obtain ⟨request, effects, isEvent, asked⟩ := clears
  have leaves : Leaves version
      (publication.before (.conversationState id))
      (publication.after (.conversationState id)) :=
    commits.performed request id effects isEvent _ asked
  refine ⟨?_, leaves.2⟩
  rintro ⟨row, present, newer⟩
  exact absurd (leaves.1 row present) (not_le.mpr newer)

end Conversations

section Runs

variable {initial : BotStore}
  {pool : Pool (Database BotRow IngressEvent)
    (SessionTask BotRow IngressEvent IngressFailure IngressAnswer)}

/-- However calls interleave, an expense keeps its owner, currency and source
under growing versions, and is settled at most once: by an event of its owner
that confirms or rejects it under its version or books the receipt.  From then
on only the category of a confirmed expense changes.  Every event that confirms
or rejects it is the one that settles it so. -/
theorem expenses_are_settled_once
    (run : SessionReaches serve (Pool.idle (Database.fresh initial)) pool)
    (id : Uuid) :
    (∀ publication ∈ pool.world.log,
      ExpenseOrder (publication.before (.expense id))
          (publication.after (.expense id)) ∧
      ExpenseOrder (publication.after (.expense id))
          (pool.world.store (.expense id)) ∧
      (publication.after (.expense id) ≠ publication.before (.expense id) →
        ∃ request owner effects,
          publication.event = .processed request (some owner) effects ∧
          ∀ row, publication.after (.expense id) = some row →
            row.accountId = owner)) ∧
    (pool.world.log.Pairwise fun later earlier =>
      ¬ (Settles id later ∧ Settles id earlier)) ∧
    (∀ publication ∈ pool.world.log, Settles id publication →
      ∃ request owner effects row final,
        publication.event = .processed request (some owner) effects ∧
        publication.after (.expense id) = some row ∧ row.accountId = owner ∧
        SettledBy effects id row ∧
        pool.world.store (.expense id) = some final ∧
        final = { row with categoryKey := final.categoryKey }) ∧
    ∀ publication ∈ pool.world.log, ∀ request owner effects version,
      publication.event = .processed request (some owner) effects →
      (.confirmExpense id version ∈ effects →
        Settles id publication ∧ ∃ final,
          pool.world.store (.expense id) = some final ∧
          final.state = .confirmed ∧ final.accountId = owner) ∧
      (.rejectExpense id version ∈ effects →
        Settles id publication ∧ ∃ final,
          pool.world.store (.expense id) = some final ∧
          final.state = .rejected ∧ final.accountId = owner) := by
  have history := history_of_reaches run
  have commits (publication) (member : publication ∈ pool.world.log) :
      CommitsEvent initial publication.before publication.event
        publication.after :=
    (history.of_mem member).2.2.1
  have stays (publication) (member : publication ∈ pool.world.log) :
      Progresses publication.after pool.world.store :=
    history.advances_of_mem member
  have remains (publication) (member : publication ∈ pool.world.log)
      {owner : Uuid} {version : Int} {state : ExpenseState}
      (isSettled : state ≠ .awaitingConfirmation)
      (settlesAs : SettlesAs owner version state
        (publication.before (.expense id))
        (publication.after (.expense id))) :
      Settles id publication ∧ ∃ final,
        pool.world.store (.expense id) = some final ∧
        final.state = state ∧ final.accountId = owner :=
    ⟨settlesAs.settles isSettled,
      (SettlesAs.between (Std.Refl.refl _) settlesAs
        ((stays publication member).expense id) isSettled).2⟩
  refine ⟨fun publication member => ⟨?_, ?_, fun changed => ?_⟩, ?_,
    fun publication member settles => ?_,
    fun publication member request owner effects version isEvent => ?_⟩
  · exact (commits publication member).progresses.expense id
  · exact (stays publication member).expense id
  · have moved := (commits publication member).moved (.expense id) rfl
    rcases Relation.ReflTransGen.cases_tail moved with same | ⟨_, _, last⟩
    · exact absurd same changed
    · obtain ⟨request, owner, effects, isEvent, move⟩ := moves_expense last
      exact ⟨request, owner, effects, isEvent, fun row present =>
        (Option.some.inj (move.owned.2 row present)).symm⟩
  · exact (history.spends_once (Settles id) (IsSettled id)
      IsSettled.of_progresses fun publication _ _ _ settles => settles).1
  · obtain ⟨request, owner, effects, row, isEvent, present, isOwner,
      isSettled, asked⟩ :=
        (commits publication member).settles settles.1 settles.2
    obtain ⟨final, isFinal, kept⟩ :=
      (stays publication member).expense id row present
    exact ⟨request, owner, effects, row, final, isEvent, present, isOwner,
      asked, isFinal, kept.settled isSettled⟩
  · have performed := (commits publication member).performed request owner
      effects isEvent
    exact ⟨fun asked => remains publication member (by simp)
        (performed _ asked),
      fun asked => remains publication member (by simp)
        (performed _ asked)⟩

/-- An expense is entered and confirmed at once. -/
def enteredEffects : List IngressEffect :=
  [.createManualExpenseAwaitingConfirmation ⟨"phở"⟩ 50000 "VND" "phở" 0 1 900
      .manualExpenseConfirmation,
    .confirmExpense ⟨"phở"⟩ 1]

theorem expenses_are_settled_once_entered :
    ∃ pool, runLabels (poolStep (sessionAct serve))
        (Pool.idle (Database.fresh memberStore))
        (memberRun enteredEffects 0) = some pool ∧
      (pool.world.store (.expense ⟨"phở"⟩)).map ExpenseRow.state =
        some .confirmed ∧
      pool.world.log.Pairwise fun later earlier =>
        ¬ (Settles ⟨"phở"⟩ later ∧ Settles ⟨"phở"⟩ earlier) := by
  have runs : ∃ pool, runLabels (poolStep (sessionAct serve))
        (Pool.idle (Database.fresh memberStore))
        (memberRun enteredEffects 0) = some pool ∧
      (pool.world.store (.expense ⟨"phở"⟩)).map ExpenseRow.state =
        some .confirmed :=
    ⟨_, rfl, rfl⟩
  obtain ⟨pool, ran, confirmed⟩ := runs
  exact ⟨pool, ran, confirmed, (expenses_are_settled_once
    (reaches_of_runLabels (permits_anyStep _ (memberRun _ 0)) ran)
    ⟨"phở"⟩).2.1⟩

/-- However calls interleave, the pending action of a conversation changes only
by events of its account that arm, clear or abandon it, always under a new
version; under one version it is replaced at most once, and cleared by at most
one event.  An action that becomes pending was armed by the event that
published it. -/
theorem pending_actions_are_consumed_once
    (run : SessionReaches serve (Pool.idle (Database.fresh initial)) pool)
    (id : Uuid) :
    (∀ publication ∈ pool.world.log,
      ConversationOrder (publication.before (.conversationState id))
          (publication.after (.conversationState id)) ∧
      ConversationOrder (publication.after (.conversationState id))
          (pool.world.store (.conversationState id)) ∧
      (publication.after (.conversationState id) ≠
          publication.before (.conversationState id) →
        ∃ request effects,
          publication.event = .processed request (some id) effects ∧
          ∃ effect ∈ effects, Touches effect)) ∧
    (∀ version, pool.world.log.Pairwise fun later earlier =>
      ¬ (Replaces id version later ∧ Replaces id version earlier)) ∧
    (∀ version, pool.world.log.Pairwise fun later earlier =>
      ¬ (Clears id version later ∧ Clears id version earlier)) ∧
    ∀ publication ∈ pool.world.log, ∀ pending,
      (¬ ∃ row, publication.before (.conversationState id) = some row ∧
        row.pending = some pending) →
      (∃ row, publication.after (.conversationState id) = some row ∧
        row.pending = some pending) →
      ∃ request effects,
        publication.event = .processed request (some id) effects ∧
        ∃ effect ∈ effects, effect.arms = some pending := by
  have history := history_of_reaches run
  have commits (publication) (member : publication ∈ pool.world.log) :
      CommitsEvent initial publication.before publication.event
        publication.after :=
    (history.of_mem member).2.2.1
  refine ⟨fun publication member => ⟨?_, ?_, fun changed => ?_⟩,
    fun version => ?_, fun version => ?_,
    fun publication member pending fresh armed => ?_⟩
  · exact (commits publication member).progresses.conversation id
  · have stays : Progresses publication.after pool.world.store :=
      history.advances_of_mem member
    exact stays.conversation id
  · obtain ⟨old, new, move⟩ :=
      (commits publication member).moved.exists_move rfl changed
    obtain ⟨request, effects, isEvent, move⟩ := moves_conversation move
    exact ⟨request, effects, isEvent, move.touches⟩
  · exact (history.spends_once (Replaces id version) (IsReplaced id version)
      IsReplaced.of_progresses fun publication _ _ guaranteed replaces =>
        guaranteed.1.replaces replaces).1
  · exact (history.spends_once (Clears id version) (IsReplaced id version)
      IsReplaced.of_progresses fun publication _ _ guaranteed clears =>
        guaranteed.1.clears clears).1
  · let holds (contents : Option ConversationRow) : Prop :=
      ∃ row, contents = some row ∧ row.pending = some pending
    obtain ⟨old, new, move, notYet, now⟩ :
        ∃ old new, publication.event.moves (.conversationState id) old new ∧
          ¬ holds old ∧ holds new :=
      chain_establishes
        ((commits publication member).moved (.conversationState id) rfl)
        fresh armed
    obtain ⟨request, effects, isEvent, move⟩ := moves_conversation move
    exact ⟨request, effects, isEvent, move.arms notYet now⟩

theorem pending_actions_are_consumed_once_entered :
    ∃ pool, runLabels (poolStep (sessionAct serve))
        (Pool.idle (Database.fresh memberStore))
        (memberRun enteredEffects 0) = some pool ∧
      pool.world.store (.conversationState ⟨"account"⟩) =
        some ⟨some ⟨.manualExpenseConfirmation, some ⟨"phở"⟩, 900⟩, 1⟩ ∧
      ∀ version, pool.world.log.Pairwise fun later earlier =>
        ¬ (Replaces ⟨"account"⟩ version later ∧
          Replaces ⟨"account"⟩ version earlier) := by
  have runs : ∃ pool, runLabels (poolStep (sessionAct serve))
        (Pool.idle (Database.fresh memberStore))
        (memberRun enteredEffects 0) = some pool ∧
      pool.world.store (.conversationState ⟨"account"⟩) =
        some ⟨some ⟨.manualExpenseConfirmation, some ⟨"phở"⟩, 900⟩, 1⟩ :=
    ⟨_, rfl, rfl⟩
  obtain ⟨pool, ran, pending⟩ := runs
  exact ⟨pool, ran, pending, (pending_actions_are_consumed_once
    (reaches_of_runLabels (permits_anyStep _ (memberRun _ 0)) ran)
    ⟨"account"⟩).2.1⟩

end Runs

end Ingress

end ZaloBot
