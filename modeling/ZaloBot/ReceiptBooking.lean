import ZaloBot.ReceiptMachine

/-!
# One expense per confirmed receipt

In every run of the receipt machine a submission is booked as an expense
exactly if it has been confirmed, from the draft at the version that the
confirmation named.  Requests that name one version of a draft exclude each
other: an edit moves the draft on, a confirmation and a rejection move the
submission on.
-/

namespace ZaloBot

open Sessions LabelledRuns TaskPool

/-- The draft version that a request names. -/
def ReceiptEvent.names : ReceiptEvent → Option (Uuid × Int)
  | .edit request => some (request.submissionId, request.expectedVersion)
  | .confirm request _ =>
      some (request.submissionId, request.expectedDraftVersion)
  | .reject request =>
      some (request.submissionId, request.expectedDraftVersion)
  | _ => none

/-- A request that names a draft version has changed something. -/
def TakesEffect (submissionId : Uuid) (version : Int)
    (publication : Publication BotRow ReceiptEvent) : Prop :=
  publication.event.names = some (submissionId, version) ∧
    publication.after ≠ publication.before

theorem Books.underReview {request : ConfirmRequest} {expenseId : Uuid}
    {before after : BotStore} (books : Books request expenseId before after) :
    UnderReview before request.submissionId request.expectedDraftVersion := by
  obtain ⟨row, present, inReview⟩ := books.review
  obtain ⟨draft, _, presentDraft, version, _⟩ := books.booked
  exact ⟨row, draft, present, inReview, presentDraft, version⟩

theorem Books.settled {request : ConfirmRequest} {expenseId : Uuid}
    {before after : BotStore} (books : Books request expenseId before after) :
    Settled after request.submissionId request.expectedDraftVersion := by
  obtain ⟨row, present, _, member⟩ := books.confirmed
  exact Or.inl ⟨row, present, Or.inl member⟩

/-- A request takes effect on a draft under review at the version it names,
and settles that version. -/
theorem TakesEffect.settles {submissionId : Uuid} {version : Int}
    {publication : Publication BotRow ReceiptEvent}
    (effect : TakesEffect submissionId version publication)
    (facts : receiptFacts publication.before publication.event
      publication.after) :
    UnderReview publication.before submissionId version ∧
      Settled publication.after submissionId version := by
  obtain ⟨names, changed⟩ := effect
  cases isEvent : publication.event with
  | edit request =>
      rw [isEvent] at names facts
      cases names
      exact facts
  | confirm request outcome =>
      rw [isEvent] at names facts
      cases names
      cases outcome with
      | confirmed expenseId =>
          exact ⟨Books.underReview facts, Books.settled facts⟩
      | alreadyConfirmed expenseId =>
          exact absurd facts.unchanged changed
  | reject request =>
      rw [isEvent] at names facts
      cases names
      rcases facts with unchanged | settled
      · exact absurd unchanged changed
      · exact settled
  | _ =>
      rw [isEvent] at names
      contradiction

/-- A confirmation that finds the submission confirmed. -/
theorem repeats_of_confirmed {before after : BotStore}
    {request : ConfirmRequest} {outcome : ConfirmOutcome}
    {row : SubmissionRow}
    (facts : receiptFacts before (.confirm request outcome) after)
    (present : before (.submission request.submissionId) = some row)
    (confirmed : row.state = .confirmed) :
    after = before ∧ row.confirmedExpenseId = some outcome.expenseId := by
  cases outcome with
  | confirmed expenseId =>
      obtain ⟨other, found, inReview⟩ := Books.review facts
      rw [present] at found
      cases found
      rw [confirmed] at inReview
      contradiction
  | alreadyConfirmed expenseId =>
      obtain ⟨other, found, _, named⟩ := facts.confirmed
      rw [present] at found
      cases found
      exact ⟨facts.unchanged, named⟩

/-- An expense that refers to a submission is the one it names. -/
theorem ReceiptInvariant.namesExpense {store : BotStore}
    (holds : ReceiptInvariant store) {submissionId expenseId : Uuid}
    {expense : ExpenseRow}
    (present : store (.expense expenseId) = some expense)
    (refers : expense.receiptSubmissionId = some submissionId) :
    Receipts.NamesExpense store submissionId expenseId := by
  have entry := holds.referred submissionId expenseId expense present refers
  obtain ⟨⟨row, found, member⟩, _⟩ := holds.indexed _ _ entry
  obtain ⟨other, named, otherEntry⟩ := holds.confirmed _ _ found member
  rw [entry] at otherEntry
  cases otherEntry
  exact ⟨row, found, named⟩

namespace ReceiptMachine

open Receipts

/-- The first statement of a confirmation. -/
theorem serve_confirm (now : Timestamp) (request : ConfirmRequest) :
    ∃ next failed, serve (.confirm now request) =
      .lock .exclusive (.submission request.submissionId)
        (fun row => row.any (·.accountId = request.accountId)) next failed ∧
      ∀ row expenseId, row.accountId = request.accountId →
        row.state = .confirmed → row.confirmedExpenseId = some expenseId →
        ∃ failed, next (some row) = .commit
          (.confirm request (.alreadyConfirmed expenseId))
          (.done (.confirmed request (.alreadyConfirmed expenseId)))
          failed := by
  refine ⟨_, _, rfl, ?_⟩
  intro row expenseId owned confirmed named
  simp only [Bind.bind, Session.bind, Option.filter, owned, confirmed, named,
    decide_true, if_true, pure]
  exact ⟨_, rfl⟩

/-- A confirmation of a confirmed submission that nobody disturbs returns the
expense and changes nothing. -/
theorem confirm_again {pool : Pool (Database BotRow ReceiptEvent)
      (SessionTask BotRow ReceiptEvent ReceiptFailure ReceiptResponse)}
    {owner : Nat} {now : Timestamp} {request : ConfirmRequest}
    {row : SubmissionRow} {expenseId : Uuid}
    (begun : pool.tasks owner =
      some (.running Overlay.none (serve (.confirm now request))))
    (present : pool.world.store (.submission request.submissionId) = some row)
    (owned : row.accountId = request.accountId)
    (confirmed : row.state = .confirmed)
    (named : row.confirmedExpenseId = some expenseId)
    (free : pool.world.lockable owner (.submission request.submissionId)
      .exclusive = true) :
    ∃ last, runLabels (poolStep (sessionAct serve)) pool
        [(owner, .advance), (owner, .advance), (owner, .advance)] =
          some last ∧
      last.world.store = pool.world.store ∧
      last.tasks owner = some (.ended
        (.ok (.confirmed request (.alreadyConfirmed expenseId)))) := by
  obtain ⟨next, failed, starts, continues⟩ := serve_confirm now request
  obtain ⟨commitFailed, commits⟩ :=
    continues row expenseId owned confirmed named
  rw [starts] at begun
  simp [runLabels, poolStep, sessionAct, advance, begun, present, owned, free,
    commits, Database.release, Database.publish]

variable {initial : BotStore}
variable {pool : Pool (Database BotRow ReceiptEvent)
  (SessionTask BotRow ReceiptEvent ReceiptFailure ReceiptResponse)}

/-- At any time the expenses that refer or have referred to a submission are
the one expense it names, and there is one exactly if it has been
confirmed. -/
def ExpensesMatch (database : Database BotRow ReceiptEvent) : Prop :=
  (∀ submissionId expenseId expense,
    database.store (.expense expenseId) = some expense →
    expense.receiptSubmissionId = some submissionId →
      NamesExpense database.store submissionId expenseId) ∧
  (∀ publication ∈ database.log, ∀ submissionId expenseId expense,
    publication.after (.expense expenseId) = some expense →
    expense.receiptSubmissionId = some submissionId →
      NamesExpense database.store submissionId expenseId) ∧
  ∀ submissionId row, database.store (.submission submissionId) = some row →
    ((∃ expenseId expense,
      database.store (.expense expenseId) = some expense ∧
      expense.receiptSubmissionId = some submissionId) ↔
        .confirmed ∈ row.history)

theorem expensesMatch_of_sound {database : Database BotRow ReceiptEvent}
    (sound : Discipline.Sound (receiptRules refusal) initial database) :
    ExpensesMatch database := by
  have holds : ReceiptInvariant database.store := sound.invariant
  refine ⟨?_, ?_, ?_⟩
  · intro submissionId expenseId expense present refers
    exact holds.namesExpense present refers
  · intro publication member submissionId expenseId expense present refers
    have progress : ReceiptProgress publication.before publication.after :=
      (sound.logged.of_mem member).2.2.1
    exact (progress.invariant.namesExpense present refers).advances
      (sound.logged.advances_of_mem member)
  · intro submissionId row present
    constructor
    · rintro ⟨expenseId, expense, found, refers⟩
      have entry := holds.referred submissionId expenseId expense found refers
      obtain ⟨⟨other, foundOther, member⟩, _⟩ := holds.indexed _ _ entry
      rw [present] at foundOther
      cases foundOther
      exact member
    · intro member
      obtain ⟨expenseId, _, entry⟩ :=
        holds.confirmed submissionId row present member
      exact ⟨expenseId, (holds.indexed submissionId expenseId entry).2⟩

/-- In every run: an expense refers to a submission exactly if the submission
has been confirmed, and it is the expense the submission names; a confirmation
books the draft at the version it names; confirming again returns the same
expense and changes nothing; and of the requests that name one version of a
draft at most one takes effect. -/
theorem one_expense_per_confirmed_receipt (fresh : WithoutReceipts initial)
    (run : SessionReaches serve (Pool.idle (Database.fresh initial)) pool) :
    ExpensesMatch pool.world ∧
    (∀ publication ∈ pool.world.log, ∀ request expenseId,
      publication.event = .confirm request (.confirmed expenseId) →
        Books request expenseId publication.before publication.after ∧
        NamesExpense pool.world.store request.submissionId expenseId) ∧
    (∀ publication ∈ pool.world.log, ∀ request outcome row,
      publication.event = .confirm request outcome →
      publication.before (.submission request.submissionId) = some row →
      row.state = .confirmed →
        publication.after = publication.before ∧
        row.confirmedExpenseId = some outcome.expenseId) ∧
    (∀ owner request outcome, pool.tasks owner =
        some (.ended (.ok (.confirmed request outcome))) →
      NamesExpense pool.world.store request.submissionId
        outcome.expenseId) ∧
    (∀ owner now request row, pool.tasks owner =
        some (.running Overlay.none (serve (.confirm now request))) →
      pool.world.store (.submission request.submissionId) = some row →
      row.accountId = request.accountId → row.state = .confirmed →
      pool.world.lockable owner (.submission request.submissionId)
        .exclusive = true →
      ∃ expenseId last, row.confirmedExpenseId = some expenseId ∧
        runLabels (poolStep (sessionAct serve)) pool
          [(owner, .advance), (owner, .advance), (owner, .advance)] =
            some last ∧
        last.world.store = pool.world.store ∧
        last.tasks owner = some (.ended
          (.ok (.confirmed request (.alreadyConfirmed expenseId))))) ∧
    ∀ submissionId version, pool.world.log.Pairwise fun later earlier =>
      ¬ (TakesEffect submissionId version later ∧
        TakesEffect submissionId version earlier) := by
  have holds := holds_of_reaches fresh run
  have invariant : ReceiptInvariant pool.world.store := holds.shared.invariant
  refine ⟨expensesMatch_of_sound holds.shared, ?_, ?_, ?_, ?_, ?_⟩
  · intro publication member request expenseId isConfirm
    have guaranteed := (holds.shared.logged.of_mem member).2.2
    have books : Books request expenseId publication.before
        publication.after := by
      have facts := guaranteed.2
      rw [isConfirm] at facts
      exact facts
    obtain ⟨_, _, _, _, stored, records⟩ := books.booked
    have progress : ReceiptProgress publication.before publication.after :=
      guaranteed.1
    exact ⟨books, (progress.invariant.namesExpense stored
      records.submission).advances
        (holds.shared.logged.advances_of_mem member)⟩
  · intro publication member request outcome row isConfirm present confirmed
    have facts := (holds.shared.logged.of_mem member).2.2.2
    rw [isConfirm] at facts
    exact repeats_of_confirmed facts present confirmed
  · intro owner request outcome ended
    have verified := holds.own owner
    rw [ended] at verified
    obtain ⟨finished, earlier, returned⟩ := verified
    exact (returned request outcome rfl).advances earlier.advances
  · intro owner now request row begun present owned confirmed free
    have current := (invariant.legal _ row present).current
    rw [confirmed] at current
    obtain ⟨expenseId, named, _⟩ := invariant.confirmed _ row present
      (List.mem_of_mem_head? current)
    obtain ⟨last, executed, same, ended⟩ :=
      confirm_again begun present owned confirmed named free
    exact ⟨expenseId, last, named, executed, same, ended⟩
  · intro submissionId version
    refine (holds.shared.logged.spends_once _
      (fun store => Settled store submissionId version)
      (fun settled advances => settled.advances advances) ?_).1
    intro publication before _ guaranteed effect
    have settles := effect.settles guaranteed.2
    exact ⟨fun settled => settled.not_underReview before settles.1,
      settles.2⟩

/-- The ingested image is extracted; a confirmation and a rejection of its
draft follow. -/
def bookedRun : List (Nat × SessionLabel ReceiptRequest) :=
  List.flatten [ingestedRun,
    [(2, .begin (.extract ⟨24, true, 10⟩
      ⟨2, 3, ⟨"draft"⟩, "1970-01",
        fun _ => .ok ⟨50000, "VND", "Cafe", "an-uong", "expense", 0, false⟩,
        .dependency "object store failed"⟩ ⟨"account"⟩ ⟨"submission"⟩))],
    .replicate 21 (2, .advance),
    [(3, .begin (.confirm 4 ⟨⟨"account"⟩, ⟨"submission"⟩, 1, ⟨"expense"⟩⟩)),
      (4, .begin (.reject 4 ⟨⟨"account"⟩, ⟨"submission"⟩, 1⟩))],
    .replicate 11 (3, .advance), .replicate 2 (4, .advance)]

theorem one_expense_per_confirmed_receipt_booked :
    ∃ pool, runLabels (poolStep (sessionAct serve))
        (Pool.idle (Database.fresh oneAccount)) bookedRun = some pool ∧
      (∃ expense, pool.world.store (.expense ⟨"expense"⟩) = some expense ∧
        expense.receiptSubmissionId = some ⟨"submission"⟩) ∧
      pool.tasks 4 = some (.ended (.error (.refused
        (.conflict "submission is not awaiting review")))) ∧
      ExpensesMatch pool.world := by
  refine ⟨_, rfl, ⟨_, rfl, rfl⟩, rfl, ?_⟩
  exact (one_expense_per_confirmed_receipt withoutReceipts_oneAccount
    (reaches_of_runLabels (permits_anyStep _ bookedRun) rfl)).1

end ReceiptMachine

end ZaloBot
