import ZaloBot.IngressEffects
import ZaloBot.SessionSolo

/-!
# The recent expenses and the latest confirmed one

`/recent` lists the confirmed ones among the ten newest expenses of any state,
while a recategorisation changes the newest confirmed expense, wherever it
stands.
-/

namespace ZaloBot

section StableSelection

variable {Value : Type*} {order : Value → Value → Prop} [DecidableRel order]

theorem filter_orderedInsert [IsTrans Value order] (keeps : Value → Bool)
    (value : Value) {values : List Value} (sorted : values.Pairwise order) :
    (values.orderedInsert order value).filter keeps =
      if keeps value then (values.filter keeps).orderedInsert order value
      else values.filter keeps := by
  induction values with
  | nil => cases kept : keeps value <;> simp [kept]
  | cons head tail induction =>
      rw [List.pairwise_cons] at sorted
      by_cases before : order value head
      · rw [List.orderedInsert_cons_of_le order tail before]
        cases kept : keeps value with
        | false => simp [kept]
        | true =>
            have least : ∀ other ∈ (head :: tail).filter keeps,
                order value other := by
              intro other inside
              rcases List.mem_cons.mp (List.mem_filter.mp inside).1
                with rfl | later
              · exact before
              · exact IsTrans.trans _ _ _ before (sorted.1 other later)
            rw [List.filter_cons, if_pos kept, if_pos rfl]
            cases shape : (head :: tail).filter keeps with
            | nil => rfl
            | cons first rest =>
                rw [List.orderedInsert_cons_of_le order rest
                  (least first (by simp [shape]))]
      · rw [List.orderedInsert_of_not_le order tail before]
        cases keptHead : keeps head <;> cases kept : keeps value <;>
          simp [keptHead, kept, induction sorted.2, before]

/-- Selecting before sorting is selecting after sorting. -/
theorem filter_insertionSort [IsTrans Value order]
    [Std.Total order] (keeps : Value → Bool) (values : List Value) :
    (values.insertionSort order).filter keeps =
      (values.filter keeps).insertionSort order := by
  induction values with
  | nil => rfl
  | cons value values induction =>
      rw [List.insertionSort_cons,
        filter_orderedInsert keeps value (List.pairwise_insertionSort order values),
        induction]
      cases kept : keeps value <;> simp [kept]

/-- Selecting among the first entries finds the first selected entries
exactly when all of the first are selected or none of the others is. -/
theorem length_filter_take_eq_iff (keeps : Value → Bool)
    (values : List Value) (limit : Nat) :
    ((values.take limit).filter keeps).length =
        ((values.filter keeps).take limit).length ↔
      (∀ value ∈ values.take limit, keeps value = true) ∨
        ∀ value ∈ values.drop limit, keeps value = false := by
  have parts : (values.filter keeps).length =
      ((values.take limit).filter keeps).length +
        ((values.drop limit).filter keeps).length := by
    rw [← List.length_append, ← List.filter_append, List.take_append_drop]
  have front : ((values.take limit).filter keeps).length = limit ∨
      ((values.drop limit).filter keeps).length = 0 →
      ((values.take limit).filter keeps).length =
        ((values.filter keeps).take limit).length := by
    have atMost := List.length_filter_le keeps (values.take limit)
    rw [List.length_take] at atMost
    rw [List.length_take, parts]
    omega
  have noneBehind : (∀ value ∈ values.drop limit, keeps value = false) ↔
      ((values.drop limit).filter keeps).length = 0 := by
    simp [List.filter_eq_nil_iff]
  have allFront : (∀ value ∈ values.take limit, keeps value = true) ↔
      ((values.take limit).filter keeps).length =
        (values.take limit).length :=
    List.length_filter_eq_length_iff.symm
  have short : (values.take limit).length = limit ∨
      values.drop limit = [] := by
    rw [List.length_take, List.drop_eq_nil_iff]
    omega
  rw [noneBehind, allFront]
  constructor
  · intro same
    rw [List.length_take, parts] at same
    have atMost := List.length_filter_le keeps (values.take limit)
    rw [List.length_take] at atMost ⊢
    omega
  · rintro (all | behind)
    · rcases short with full | short
      · exact front (.inl (all.trans full))
      · exact front (.inr (by simp [short]))
    · exact front (.inr behind)

theorem filter_take_eq_of_length {keeps : Value → Bool}
    {values : List Value} {limit : Nat}
    (same : ((values.take limit).filter keeps).length =
      ((values.filter keeps).take limit).length) :
    (values.take limit).filter keeps = (values.filter keeps).take limit := by
  refine List.IsPrefix.eq_of_length (List.prefix_take_iff.mpr ⟨?_, ?_⟩) same
  · exact (List.take_prefix limit values).filter keeps
  · exact (List.length_filter_le ..).trans (List.length_take_le ..)

end StableSelection

namespace Ingress

open Conversation Sessions

section Keeping

variable {Event Error Value Other : Type}

theorem applied_bind_eq_ok {first : Session BotRow Event Error Value}
    {rest : Value → Session BotRow Event Error Other}
    {view after : BotStore} {value : Other} :
    (first >>= rest).applied view = .ok (value, after) ↔
      ∃ result middle, first.applied view = .ok (result, middle) ∧
        (rest result).applied middle = .ok (value, after) := by
  rw [Session.applied_bind, except_bind_eq_ok, Prod.exists]

/-- A part of a transaction that leaves the rows it sees alone. -/
def Keeps (part : Session BotRow Event Error Value) : Prop :=
  ∀ view value after, part.applied view = .ok (value, after) → after = view

theorem keeps_pure {value : Value} :
    Keeps (pure value : Session BotRow Event Error Value) := by
  intro view _ after ends
  cases ends
  rfl

theorem keeps_fail {error : Error} :
    Keeps (.fail error : Session BotRow Event Error Value) :=
  fun _ _ _ ends => nomatch ends

theorem keeps_query {error : Error} {ask : BotStore → Value} :
    Keeps (.query error ask : Session BotRow Event Error Value) := by
  intro view value after ends
  rw [Session.applied_query] at ends
  cases ends
  rfl

theorem Keeps.bind {first : Session BotRow Event Error Value}
    {rest : Value → Session BotRow Event Error Other} (keeps : Keeps first)
    (others : ∀ value, Keeps (rest value)) : Keeps (first >>= rest) := by
  intro view value after ends
  obtain ⟨result, middle, begins, finishes⟩ := applied_bind_eq_ok.mp ends
  rw [others result middle value after finishes,
    keeps view result middle begins]

theorem applied_selectForUpdate {error : Error} {key : BotKey}
    {condition : BotRow key → Bool} {view : BotStore} :
    (.selectForUpdate error key condition :
      Session BotRow Event Error _).applied view =
        .ok ((view key).filter condition, view) :=
  rfl

theorem applied_updateRow {error : Error} {key : BotKey}
    {condition : BotRow key → Bool} {change : BotRow key → BotRow key}
    {view : BotStore} :
    (.updateRow error key condition change :
      Session BotRow Event Error Bool).applied view =
        match (view key).filter condition with
        | none => .ok (false, view)
        | some old => .ok (true, Function.update view key (some (change old))) := by
  rw [Session.updateRow, Session.applied]
  cases (view key).filter condition <;> rfl

/-- What a sequence makes of a view its first part leaves alone. -/
theorem Keeps.applied_bind {first : Session BotRow Event Error Value}
    {rest : Value → Session BotRow Event Error Other} (keeps : Keeps first)
    {view after : BotStore} {value : Other}
    (ends : (first >>= rest).applied view = .ok (value, after)) :
    ∃ result, first.applied view = .ok (result, view) ∧
      (rest result).applied view = .ok (value, after) := by
  obtain ⟨result, middle, begins, finishes⟩ := applied_bind_eq_ok.mp ends
  have same := keeps view result middle begins
  subst same
  exact ⟨result, begins, finishes⟩

end Keeping

section Loading

variable {Event : Type} {environment : ContextEnvironment}
  {accountId inboundEventId : Uuid}

theorem keeps_fetchOne {Value : Type} {error : IngressEffectError}
    {ask : BotStore → Option Value} :
    Keeps (fetchOne error ask : Statement Event Value) := by
  refine keeps_query.bind fun answer => ?_
  cases answer with
  | none => exact keeps_fail
  | some value => exact keeps_pure

theorem keeps_loadInteractiveTotals {frequency : Frequency}
    {observedAt : Timestamp} {timezone fallbackCurrency : String} :
    Keeps (loadInteractiveTotals environment accountId frequency observedAt
      timezone fallbackCurrency : Statement Event _) := by
  unfold loadInteractiveTotals
  split
  · exact keeps_fail
  · exact keeps_fetchOne

theorem keeps_loadPendingAction {recent : List RecentExpense}
    {row : Option ConversationRow} :
    Keeps (loadPendingAction environment accountId recent row :
      Statement Event _) := by
  unfold loadPendingAction
  split
  · exact keeps_pure
  · split
    · exact keeps_pure
    · dsimp only
      split
      · refine Keeps.bind ?_ fun _ => keeps_pure
        unfold loadPendingExpense
        split
        · exact keeps_pure
        · exact keeps_query
      · refine Keeps.bind ?_ fun _ => keeps_pure
        exact keeps_fetchOne.bind fun _ => keeps_query
      · exact keeps_pure

/-- The recent expenses of a loaded context. -/
theorem recentExpenses_of_loaded {policy : IngressPolicy}
    {request : IngressRequest} {view after : BotStore}
    {context : DecisionContext}
    (loaded : (loadDecisionContext environment policy accountId
      inboundEventId request : Statement Event _).applied view =
        .ok (context, after)) :
    context.recentExpenses = recentOf environment view accountId := by
  unfold loadDecisionContext at loaded
  obtain ⟨_, _, loaded⟩ := keeps_fetchOne.applied_bind loaded
  obtain ⟨_, _, loaded⟩ := keeps_query.applied_bind loaded
  obtain ⟨_, _, loaded⟩ := keeps_fetchOne.applied_bind loaded
  obtain ⟨_, _, loaded⟩ := keeps_fetchOne.applied_bind loaded
  obtain ⟨_, _, loaded⟩ := keeps_loadInteractiveTotals.applied_bind loaded
  obtain ⟨_, _, loaded⟩ := keeps_loadInteractiveTotals.applied_bind loaded
  obtain ⟨_, _, loaded⟩ := keeps_query.applied_bind loaded
  obtain ⟨_, _, loaded⟩ := keeps_query.applied_bind loaded
  obtain ⟨_, _, loaded⟩ := keeps_query.applied_bind loaded
  obtain ⟨recent, selects, loaded⟩ := keeps_query.applied_bind loaded
  obtain ⟨_, _, loaded⟩ := keeps_loadPendingAction.applied_bind loaded
  rw [Session.applied_query] at selects
  cases selects
  cases loaded
  rfl

end Loading

section Ledger

variable (environment : ContextEnvironment) (view : BotStore)
  (accountId : Uuid)

/-- Newer expenses come first. -/
def NewerFirst (first second : Uuid × ExpenseRow) : Prop :=
  second.2.occurredAt ≤ first.2.occurredAt

instance : DecidableRel NewerFirst :=
  fun _ _ => inferInstanceAs (Decidable (_ ≤ _))

instance : IsTrans (Uuid × ExpenseRow) NewerFirst :=
  ⟨fun _ _ _ first second => le_trans second first⟩

instance : Std.Total NewerFirst :=
  ⟨fun first second => le_total second.2.occurredAt first.2.occurredAt⟩

def isConfirmed (expense : Uuid × ExpenseRow) : Bool :=
  expense.2.state = .confirmed

/-- The expenses of an account in any state, newest first. -/
def newestExpenses : List (Uuid × ExpenseRow) :=
  (expensesOf environment view accountId).insertionSort NewerFirst

/-- The confirmed expenses of an account, newest first. -/
def newestConfirmed : List (Uuid × ExpenseRow) :=
  ((expensesOf environment view accountId).filter isConfirmed).insertionSort
    NewerFirst

/-- The row that the selection of `recategorize_latest_in_transaction`
finds. -/
def latestConfirmed : Option Uuid :=
  (newestConfirmed environment view accountId).head?.map Prod.fst

theorem newestConfirmed_eq :
    newestConfirmed environment view accountId =
      (newestExpenses environment view accountId).filter isConfirmed :=
  (filter_insertionSort isConfirmed _).symm

theorem recentOf_confirmed :
    (recentOf environment view accountId).filter (·.state = .confirmed) =
      (((newestExpenses environment view accountId).take 10).filter
        isConfirmed).map fun expense =>
          recentExpense expense.1 expense.2 := by
  rw [recentOf, List.filter_map]
  rfl

variable {environment view accountId}

theorem stored_of_newestConfirmed {id : Uuid} {row : ExpenseRow}
    (inside : (id, row) ∈ newestConfirmed environment view accountId) :
    view (.expense id) = some row ∧ row.accountId = accountId ∧
      row.state = .confirmed := by
  rw [newestConfirmed, List.mem_insertionSort, List.mem_filter,
    expensesOf, List.mem_filterMap] at inside
  obtain ⟨⟨found, _, selected⟩, isConfirmed⟩ := inside
  obtain ⟨stored, kept, same⟩ := Option.map_eq_some_iff.mp selected
  cases same
  obtain ⟨isStored, owned⟩ := Option.filter_eq_some_iff.mp kept
  exact ⟨isStored, by simpa using owned, by simpa [Ingress.isConfirmed] using
    isConfirmed⟩

/-- A recategorisation changes the category of the newest confirmed expense
and no other expense. -/
theorem recategorized {Event : Type} {categoryKey : String} {id : Uuid}
    {row : ExpenseRow} {rest : List (Uuid × ExpenseRow)} {after : BotStore}
    (newest : newestConfirmed environment view accountId = (id, row) :: rest)
    (ends : (Expenses.recategorizeLatestInTransaction
      (latestConfirmed environment view accountId) accountId categoryKey :
        Statement Event Unit).applied view = .ok ((), after)) :
    view (.expense id) = some row ∧
      after (.expense id) = some { row with categoryKey := categoryKey } ∧
        ∀ other, other ≠ id → after (.expense other) = view (.expense other) := by
  obtain ⟨stored, owned, confirmed⟩ := stored_of_newestConfirmed
    (by rw [newest]; simp :
      (id, row) ∈ newestConfirmed environment view accountId)
  have latest : latestConfirmed environment view accountId = some id := by
    rw [latestConfirmed, newest]
    rfl
  have selected : (view (.expense id)).filter
      (fun row => row.accountId = accountId && row.state = .confirmed) =
        some row := by
    simp [stored, owned, confirmed]
  have own : (view (.expense id)).filter (·.accountId = accountId) =
      some row := by
    simp [stored, owned]
  have others (store : BotStore)
      (same : ∀ other, store (.expense other) =
        Function.update view (.expense id)
          (some { row with categoryKey := categoryKey }) (.expense other)) :
      view (.expense id) = some row ∧
        store (.expense id) = some { row with categoryKey := categoryKey } ∧
          ∀ other, other ≠ id → store (.expense other) = view (.expense other) := by
    refine ⟨stored, by rw [same, Function.update_self], fun other isOther => ?_⟩
    rw [same, Function.update_of_ne (by simpa using isOther)]
  unfold Expenses.recategorizeLatestInTransaction at ends
  obtain ⟨known, _, ends⟩ := keeps_query.applied_bind ends
  cases known with
  | false => cases ends
  | true =>
      rw [latest] at ends
      rw [if_pos rfl] at ends
      obtain ⟨_, _, selects, ends⟩ := applied_bind_eq_ok.mp ends
      rw [applied_selectForUpdate, selected] at selects
      cases selects
      obtain ⟨_, _, updates, ends⟩ := applied_bind_eq_ok.mp ends
      rw [applied_updateRow, own] at updates
      cases updates
      rw [if_pos rfl] at ends
      split at ends
      · cases ends
        exact others _ fun _ => rfl
      · obtain ⟨_, _, drafts, ends⟩ := applied_bind_eq_ok.mp ends
        rw [applied_updateRow] at drafts
        split at drafts
        · cases drafts
          cases ends
          exact others _ fun _ => rfl
        · cases drafts
          cases ends
          refine others _ fun other => ?_
          rw [Function.update_of_ne (by simp)]

theorem recategorize_refused {Event : Type} {categoryKey : String}
    {after : BotStore}
    (newest : newestConfirmed environment view accountId = []) :
    (Expenses.recategorizeLatestInTransaction
      (latestConfirmed environment view accountId) accountId categoryKey :
        Statement Event Unit).applied view ≠ .ok ((), after) := by
  intro ends
  obtain ⟨known, _, ends⟩ := keeps_query.applied_bind ends
  rw [latestConfirmed, newest] at ends
  cases known <;> cases ends

/-- How a recategorisation names a merchant. -/
def namedMerchant (merchant : String) : String :=
  if merchant.isEmpty then "—" else merchant

variable (environment view accountId)

/-- What a conversation shows of the expenses and what it changes are the
newest confirmed expenses of the account. -/
structure FollowsLedger (texts : IngressTexts) (context : DecisionContext) :
    Prop where
  recent : ∀ intent now, intent.kind = .recent →
    handleCommand texts.zones texts.cards
        (toConversationContext texts context) intent now =
      replyOnly (.recent
        (((newestConfirmed environment view accountId).take 10).map
          fun expense => recentLine texts context
            (recentExpense expense.1 expense.2)))
  refuses : ∀ intent now, intent.kind = .recategorizeLatest →
    intent.categoryKey ∈ categoryKeys →
      (handleCommand texts.zones texts.cards
          (toConversationContext texts context) intent now =
        replyOnly .noExpenseToRecategorize ↔
          newestConfirmed environment view accountId = [])
  names : ∀ intent now after, intent.kind = .recategorizeLatest →
    intent.categoryKey ∈ categoryKeys →
      (Expenses.recategorizeLatestInTransaction
        (latestConfirmed environment view accountId) accountId
          intent.categoryKey : Statement Unit Unit).applied view =
            .ok ((), after) →
        ∃ id row, view (.expense id) = some row ∧
          after (.expense id) =
            some { row with categoryKey := intent.categoryKey } ∧
          (∀ other, other ≠ id →
            after (.expense other) = view (.expense other)) ∧
          handleCommand texts.zones texts.cards
              (toConversationContext texts context) intent now =
            ⟨[.recategorized (namedMerchant row.description)
                intent.categoryKey],
              [.recategorizeLatest intent.categoryKey]⟩

section Following

variable {texts : IngressTexts} {policy : IngressPolicy}
  {inboundEventId : Uuid} {request : IngressRequest} {after : BotStore}
  {context : DecisionContext}

theorem recentLines_of_loaded
    (loaded : (loadDecisionContext environment policy accountId
      inboundEventId request : Statement Unit _).applied view =
        .ok (context, after)) :
    (toConversationContext texts context).recentLines =
      (((newestExpenses environment view accountId).take 10).filter
        isConfirmed).map fun expense =>
          recentLine texts context (recentExpense expense.1 expense.2) := by
  rw [toConversationContext, recentExpenses_of_loaded loaded,
    recentOf_confirmed, List.map_map]
  rfl

/-- The newest expenses are the ten that the query selects, unless a confirmed
one is hidden behind ten others. -/
def HidesNoConfirmed : Prop :=
  (∀ expense ∈ (newestExpenses environment view accountId).take 10,
      isConfirmed expense = true) ∨
    ∀ expense ∈ (newestExpenses environment view accountId).drop 10,
      isConfirmed expense = false

variable {environment view accountId}

theorem handleRecategorize_of_lines {conversation : AccountContext}
    {intent : Intent} (valid : intent.categoryKey ∈ categoryKeys) :
    handleRecategorize conversation intent =
      match conversation.recentLines with
      | [] => replyOnly .noExpenseToRecategorize
      | line :: _ =>
          ⟨[.recategorized (namedMerchant line.merchant) intent.categoryKey],
            [.recategorizeLatest intent.categoryKey]⟩ := by
  have named : intent.categoryKey.isEmpty = false :=
    (by decide : ∀ key ∈ categoryKeys, key.isEmpty = false) _ valid
  rw [handleRecategorize, named]
  cases conversation.recentLines <;> simp [namedMerchant]

/-- The list of recent expenses and the reply to a recategorisation follow the
ledger exactly when the ten newest expenses are all confirmed or no confirmed
expense is older than they are. -/
theorem follows_ledger_iff
    (loaded : (loadDecisionContext environment policy accountId
      inboundEventId request : Statement Unit _).applied view =
        .ok (context, after)) :
    FollowsLedger environment view accountId texts context ↔
      HidesNoConfirmed environment view accountId := by
  have lines : (toConversationContext texts context).recentLines = _ :=
    recentLines_of_loaded environment view accountId loaded
  rw [HidesNoConfirmed, ← length_filter_take_eq_iff, ← newestConfirmed_eq]
  constructor
  · intro follows
    have shown : replyOnly
        (.recent (toConversationContext texts context).recentLines) = _ :=
      follows.recent (.of .recent) 0 rfl
    simp only [replyOnly, ConversationOutcome.mk.injEq, List.cons.injEq,
      ReplyPlan.recent.injEq, and_true] at shown
    have lengths := congrArg List.length shown
    rw [lines, List.length_map, List.length_map] at lengths
    exact lengths
  · intro same
    have shown : (toConversationContext texts context).recentLines =
        ((newestConfirmed environment view accountId).take 10).map
          fun expense => recentLine texts context
            (recentExpense expense.1 expense.2) := by
      rw [lines, newestConfirmed_eq] at *
      rw [filter_take_eq_of_length same]
    refine ⟨?_, ?_, ?_⟩
    · intro intent now isRecent
      rw [handleCommand, isRecent, shown]
    · intro intent now isRecategorize valid
      rw [handleCommand, isRecategorize, handleRecategorize_of_lines valid,
        shown]
      cases newestConfirmed environment view accountId with
      | nil => simp
      | cons expense rest => simp [replyOnly]
    · intro intent now changed isRecategorize valid ends
      rw [handleCommand, isRecategorize, handleRecategorize_of_lines valid,
        shown]
      cases newest : newestConfirmed environment view accountId with
      | nil => exact absurd ends (recategorize_refused newest)
      | cons expense rest =>
          obtain ⟨id, row⟩ := expense
          obtain ⟨stored, changes, others⟩ := recategorized newest ends
          exact ⟨id, row, stored, changes, others, rfl⟩

end Following

end Ledger

section Samples

/-- The first of May 2026 at seven in the morning in Vietnam. -/
def mayMorning : Timestamp :=
  1777593600000000

def plainTexts : IngressTexts where
  library :=
    { fold := id
      parseAmount := fun _ _ => none
      resolveCategoryKey := fun _ => none
      parseDateToken := fun _ => none
      extractAfterKeywords := fun _ _ => none }
  zones := ⟨(· == "Asia/Ho_Chi_Minh"), fun _ _ => ⟨2026, 5, 1⟩, fun _ _ => []⟩
  cards := ⟨fun _ key => key, fun _ => "khac", fun _ label => label,
    fun _ => "expense"⟩
  periodLabel := fun _ _ => ""
  render := fun _ _ => ""

/-- The zone of Vietnam on that day; eleven expenses were created. -/
def vietnamEnvironment (expenseIds : List Uuid) : ContextEnvironment where
  expenseIds := expenseIds
  localDate := fun _ => some fun instant =>
    (instant + 25200000000) / 86400000000
  interactivePeriod := fun frequency _ _ =>
    match frequency with
    | .daily => some (1777568400000000, 1777654800000000)
    | .weekly => some (1777222800000000, 1777654800000000)
    | .monthly => some (1777568400000000, 1777654800000000)
  dailyPeriodKey := fun _ _ => "2026-05-01"
  categoryDisplay := fun _ key => key
  nextExpenseId := ⟨"next"⟩
  nextSubmissionId := ⟨"submission"⟩
  nextIngestJobId := ⟨"job"⟩

def activeAccount : AccountRow :=
  ⟨.active, some "consent-v1", some 0, "vi-VN", "Asia/Ho_Chi_Minh", 7, "VND"⟩

/-- An expense of 45000 đồng. -/
def phoExpense (state : ExpenseState) (occurredAt : Timestamp) : ExpenseRow :=
  ⟨⟨"account"⟩, 45000, "VND", occurredAt, "pho", .manual, state, 1, none,
    "an-uong", "expense"⟩

def rejectedIds : List Uuid :=
  [⟨"a"⟩, ⟨"b"⟩, ⟨"c"⟩, ⟨"d"⟩, ⟨"e"⟩, ⟨"f"⟩, ⟨"g"⟩, ⟨"h"⟩, ⟨"i"⟩, ⟨"j"⟩]

/-- An account with one confirmed expense and newer rejected ones. -/
def rejectedStore (rejected : List Uuid) : BotStore
  | .account id => if id = ⟨"account"⟩ then some activeAccount else none
  | .expense id =>
      if id = ⟨"first"⟩ then some (phoExpense .confirmed 0)
      else if id ∈ rejected then some (phoExpense .rejected mayMorning)
      else none
  | _ => none

def recentRequest : IngressRequest :=
  ⟨.polling, "zalo", "event", "sender", "chat", true, "/recent", mayMorning⟩

theorem follows_ledger_without_rejected :
    ∃ context after,
      (loadDecisionContext (vietnamEnvironment [⟨"first"⟩]) .default
        ⟨"account"⟩ ⟨"event"⟩ recentRequest : Statement Unit _).applied
          (rejectedStore []) = .ok (context, after) ∧
        FollowsLedger (vietnamEnvironment [⟨"first"⟩]) (rejectedStore [])
          ⟨"account"⟩ plainTexts context := by
  have loads : ∃ context after,
      (loadDecisionContext (vietnamEnvironment [⟨"first"⟩]) .default
        ⟨"account"⟩ ⟨"event"⟩ recentRequest : Statement Unit _).applied
          (rejectedStore []) = .ok (context, after) :=
    ⟨_, _, rfl⟩
  obtain ⟨context, after, loaded⟩ := loads
  exact ⟨context, after, loaded,
    (follows_ledger_iff loaded).mpr (.inl (by decide))⟩

/-- Ten newer rejected expenses hide the confirmed one: a recategorisation is
refused. -/
theorem rejected_expenses_hide_confirmed :
    ∃ context after,
      (loadDecisionContext (vietnamEnvironment (rejectedIds ++ [⟨"first"⟩]))
        .default ⟨"account"⟩ ⟨"event"⟩ recentRequest :
          Statement Unit _).applied (rejectedStore rejectedIds) =
            .ok (context, after) ∧
        ¬ FollowsLedger (vietnamEnvironment (rejectedIds ++ [⟨"first"⟩]))
          (rejectedStore rejectedIds) ⟨"account"⟩ plainTexts context := by
  have loads : ∃ context after,
      (loadDecisionContext (vietnamEnvironment (rejectedIds ++ [⟨"first"⟩]))
        .default ⟨"account"⟩ ⟨"event"⟩ recentRequest :
          Statement Unit _).applied (rejectedStore rejectedIds) =
            .ok (context, after) :=
    ⟨_, _, rfl⟩
  obtain ⟨context, after, loaded⟩ := loads
  refine ⟨context, after, loaded, fun follows => ?_⟩
  have noLines : (toConversationContext plainTexts context).recentLines = [] := by
    rw [recentLines_of_loaded _ _ _ loaded]
    rfl
  have refused : newestConfirmed _ _ _ = [] :=
    (follows.refuses { Intent.of .recategorizeLatest with
      categoryKey := "khac" } 0 rfl (by decide)).mp (by
        rw [handleCommand, handleRecategorize_of_lines (by decide), noLines]
        rfl)
  exact absurd refused (by decide)

end Samples

end Ingress

end ZaloBot
