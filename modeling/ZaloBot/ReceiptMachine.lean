import ZaloBot.ReceiptReviews

/-!
# The receipt state machine

All operations of the receipt lifecycle run as sessions of one machine, in any
number and any order, failing or dropped anywhere.  In every reachable state
the submissions have followed legal transitions and satisfy the checks of
their table, and no operation has failed because it would have violated one.
-/

namespace ZaloBot

open Sessions LabelledRuns TaskPool

/-- Calls of the receipt lifecycle, with what the environment decides. -/
inductive ReceiptRequest where
  | accept (now : Timestamp) (request : AcceptSubmissionRequest)
  | failQueued (now : Timestamp) (submissionId accountId : Uuid)
      (errorClass : ErrorClass)
  | ingest (environment : Receipts.IngestEnvironment)
      (accountId submissionId : Uuid) (bytes : List UInt8)
      (mimeType : String) (extractJobId : Uuid)
  | extract (config : ReceiptConfig)
      (environment : Receipts.ExtractEnvironment)
      (accountId submissionId : Uuid)
  | edit (toRfc3339 : Timestamp → String) (request : EditDraftRequest)
  | confirm (now : Timestamp) (request : ConfirmRequest)
  | reject (now : Timestamp) (request : RejectRequest)
  | expireReviews (now : Timestamp) (batchLimit : Int)
      (candidates : List (Uuid × Uuid))
  | deleteOriginal (now : Timestamp) (objectStoreError : StoreError)
      (accountId submissionId : Uuid)
  | retentionSweep (now : Timestamp) (objectStoreError : StoreError)
      (batchLimit : Int) (candidates : List Uuid)
  | recategorizeLatest (latest : Option Uuid) (accountId : Uuid)
      (categoryKey : String)

inductive ReceiptResponse where
  | accepted (outcome : AcceptSubmissionOutcome)
  | ingested (outcome : IngestOutcome)
  | extracted (outcome : ExtractOutcome)
  | edited (draft : DraftRow)
  | confirmed (request : ConfirmRequest) (outcome : ConfirmOutcome)
  | counted (count : Nat)
  | finished
deriving DecidableEq, Repr

namespace ReceiptMachine

open Receipts

/-- The session of a call. -/
def serve : ReceiptRequest → Operation ReceiptResponse
  | .accept now request => do
      let outcome ← acceptSubmission now request
      pure (.accepted outcome)
  | .failQueued now submissionId accountId errorClass => do
      failQueued now submissionId accountId errorClass
      pure .finished
  | .ingest environment accountId submissionId bytes mimeType
      extractJobId => do
      let outcome ← ingest environment accountId submissionId bytes mimeType
        extractJobId
      pure (.ingested outcome)
  | .extract config environment accountId submissionId => do
      let outcome ← extract config environment accountId submissionId
      pure (.extracted outcome)
  | .edit toRfc3339 request => do
      let draft ← editDraft toRfc3339 request
      pure (.edited draft)
  | .confirm now request => do
      let outcome ← confirm now request
      pure (.confirmed request outcome)
  | .reject now request => do
      reject now request
      pure .finished
  | .expireReviews now batchLimit candidates => do
      let count ← expireReviews now batchLimit candidates
      pure (.counted count)
  | .deleteOriginal now objectStoreError accountId submissionId => do
      deleteOriginal now objectStoreError accountId submissionId
      pure .finished
  | .retentionSweep now objectStoreError batchLimit candidates => do
      let count ← retentionSweep now objectStoreError batchLimit candidates
      pure (.counted count)
  | .recategorizeLatest latest accountId categoryKey => do
      recategorizeLatest latest accountId categoryKey
      pure .finished

/-- Calls fail only by refusing. -/
def refusal (failure : ReceiptFailure) (_ : BotStore) : Prop :=
  ∃ error, failure = .refused error

/-- A confirmation returns the expense that the submission names. -/
def returns (response : ReceiptResponse) (store : BotStore) : Prop :=
  ∀ request outcome, response = .confirmed request outcome →
    NamesExpense store request.submissionId outcome.expenseId

theorem verified_of_completes {Value : Type} {operation : Operation Value}
    {respond : Value → ReceiptResponse} (completes : Completes operation)
    (silent : ∀ value request outcome,
      respond value ≠ .confirmed request outcome)
    {store : BotStore} (holds : ReceiptInvariant store) :
    (receiptRules refusal).wp (do
      let value ← operation
      pure (respond value)) Overlay.none store fun response _ store =>
        returns response store := by
  rw [Discipline.wp_monad_bind]
  refine completes store holds _ _ (fun error _ _ => ⟨error, rfl⟩) ?_
  intro value later _ request outcome isConfirmed
  exact absurd isConfirmed (silent value request outcome)

/-- Every call keeps the discipline. -/
theorem wp_serve (request : ReceiptRequest) {store : BotStore}
    (holds : ReceiptInvariant store) :
    (receiptRules refusal).wp (serve request) Overlay.none store
      fun response _ store => returns response store := by
  cases request with
  | accept now request =>
      exact verified_of_completes completes_acceptSubmission (by simp) holds
  | failQueued now submissionId accountId errorClass =>
      exact verified_of_completes completes_failQueued (by simp) holds
  | ingest environment accountId submissionId bytes mimeType extractJobId =>
      exact verified_of_completes completes_ingest (by simp) holds
  | extract config environment accountId submissionId =>
      exact verified_of_completes completes_extract (by simp) holds
  | edit toRfc3339 request =>
      exact verified_of_completes completes_editDraft (by simp) holds
  | reject now request =>
      exact verified_of_completes completes_reject (by simp) holds
  | expireReviews now batchLimit candidates =>
      exact verified_of_completes completes_expireReviews (by simp) holds
  | deleteOriginal now objectStoreError accountId submissionId =>
      exact verified_of_completes completes_deleteOriginal (by simp) holds
  | retentionSweep now objectStoreError batchLimit candidates =>
      exact verified_of_completes completes_retentionSweep (by simp) holds
  | recategorizeLatest latest accountId categoryKey =>
      exact verified_of_completes completes_recategorizeLatest (by simp) holds
  | confirm now request =>
      unfold serve
      rw [Discipline.wp_monad_bind]
      refine wp_confirm holds (fun error _ _ => ⟨error, rfl⟩) ?_
      intro outcome later _ names other otherOutcome isConfirmed
      cases isConfirmed
      exact names

theorem verifiesAll :
    (receiptRules refusal).VerifiesAll (fun _ _ => True) serve returns :=
  .of_wp fun request _ holds => wp_serve request holds

section Runs

/-- A database in which no receipt has been submitted. -/
structure WithoutReceipts (store : BotStore) : Prop where
  submissions : ∀ id, store (.submission id) = none
  receiptExpenses : ∀ id, store (.receiptExpense id) = none
  expenses : ∀ id expense, store (.expense id) = some expense →
    expense.receiptSubmissionId = none

theorem WithoutReceipts.invariant {store : BotStore}
    (fresh : WithoutReceipts store) : ReceiptInvariant store where
  legal id row present := by simp [fresh.submissions] at present
  stored id row present := by simp [fresh.submissions] at present
  confirmed id row present := by simp [fresh.submissions] at present
  indexed id expenseId present := by simp [fresh.receiptExpenses] at present
  referred id expenseId expense present refers := by
    rw [fresh.expenses expenseId expense present] at refers
    contradiction

variable {initial : BotStore}
variable {pool : Pool (Database BotRow ReceiptEvent)
  (SessionTask BotRow ReceiptEvent ReceiptFailure ReceiptResponse)}

/-- Every run keeps the discipline. -/
theorem holds_of_reaches (fresh : WithoutReceipts initial)
    (run : SessionReaches serve (Pool.idle (Database.fresh initial))
      pool) :
    Holds (Discipline.Sound (receiptRules refusal) initial)
      (Discipline.Verified (receiptRules refusal) (fun _ _ => True) returns)
      pool :=
  Discipline.sound_of_reaches verifiesAll fresh.invariant
    (fun _ _ _ => ⟨fun _ _ _ _ _ _ => trivial, fun _ _ _ _ => trivial⟩) run

/-- In every reachable state the submissions have followed legal transitions
from `pending`, satisfy the checks of their table and have their asset once
they have been stored; terminal states are left only to `deleted`; and no
operation has failed on one of the checks. -/
theorem receipts_follow_state_machine (fresh : WithoutReceipts initial)
    (run : SessionReaches serve (Pool.idle (Database.fresh initial))
      pool) :
    (∀ id row, pool.world.store (.submission id) = some row →
      ReceiptPath row.history ∧ row.history.head? = some row.state ∧
      row.satisfiesChecks id = true ∧
      (.stored ∈ row.history →
        ∃! asset, pool.world.store (.asset id) = some asset)) ∧
    (∀ publication ∈ pool.world.log, ∀ id row,
      publication.before (.submission id) = some row →
      ∃ next, publication.after (.submission id) = some next ∧
        row.history <:+ next.history ∧
        (row.state.isTerminal = true →
          next.state = row.state ∨ next.state = .deleted)) ∧
    ∀ owner failure, pool.tasks owner = some (.ended (.error failure)) →
      failure ≠ .checkViolated := by
  have holds := holds_of_reaches fresh run
  have invariant : ReceiptInvariant pool.world.store := holds.shared.invariant
  refine ⟨?_, ?_, ?_⟩
  · intro id row present
    have legal := invariant.legal id row present
    refine ⟨legal.path, legal.current, legal.checks, fun stored => ?_⟩
    obtain ⟨asset, found⟩ := Option.isSome_iff_exists.mp
      (invariant.stored id row present stored)
    refine ⟨asset, found, fun other foundOther => ?_⟩
    exact Option.some.inj (foundOther.symm.trans found)
  · intro publication member id row present
    have guaranteed := holds.shared.logged.of_mem member
    have before : ReceiptInvariant publication.before := guaranteed.1
    have progress : ReceiptProgress publication.before publication.after :=
      guaranteed.2.2.1
    obtain ⟨next, found, grown, _⟩ :=
      progress.advances.submissions id row present
    refine ⟨next, found, grown, fun terminal => ?_⟩
    have current := List.mem_of_mem_head? (before.legal id row present).current
    exact (progress.invariant.legal id next found).state_of_terminal
      (grown.mem current) terminal
  · intro owner failure ended violated
    have verified := holds.own owner
    rw [ended] at verified
    obtain ⟨_, _, error, refused⟩ := verified
    rw [violated] at refused
    contradiction

/-- A database with one active account. -/
def oneAccount : BotStore :=
  Function.update BotStore.initial (.account ⟨"account"⟩)
    (some ⟨.active, some "1", some 0, "vi-VN", "Asia/Ho_Chi_Minh", 7, "VND"⟩)

/-- An image is accepted and ingested. -/
def ingestedRun : List (Nat × SessionLabel ReceiptRequest) :=
  List.flatten
    [[(0, .begin (.accept 0 ⟨⟨"submission"⟩, ⟨"account"⟩, none, ⟨"job"⟩⟩))],
    .replicate 12 (0, .advance),
    [(1, .begin (.ingest
      ⟨1, fun _ mimeType => .ok ⟨"hash", mimeType, 1, 1, 1⟩, ⟨"asset"⟩,
        .dependency "object store failed"⟩
      ⟨"account"⟩ ⟨"submission"⟩ [255] "image/png" ⟨"extract"⟩))],
    .replicate 19 (1, .advance)]

theorem withoutReceipts_oneAccount : WithoutReceipts oneAccount where
  submissions _ := rfl
  receiptExpenses _ := rfl
  expenses _ _ present := by contradiction

theorem receipts_follow_state_machine_ingested :
    ∃ pool, runLabels (poolStep (sessionAct serve))
        (Pool.idle (Database.fresh oneAccount)) ingestedRun = some pool ∧
      (∃ row, pool.world.store (.submission ⟨"submission"⟩) = some row ∧
        row.history = [.stored, .queued, .pending]) ∧
      ∀ id row, pool.world.store (.submission id) = some row →
        ReceiptPath row.history ∧ row.history.head? = some row.state ∧
        row.satisfiesChecks id = true ∧
        (.stored ∈ row.history →
          ∃! asset, pool.world.store (.asset id) = some asset) := by
  refine ⟨_, rfl, ⟨_, rfl, rfl⟩, ?_⟩
  exact (receipts_follow_state_machine withoutReceipts_oneAccount
    (reaches_of_runLabels (permits_anyStep _ ingestedRun) rfl)).1

end Runs

end ReceiptMachine

end ZaloBot
