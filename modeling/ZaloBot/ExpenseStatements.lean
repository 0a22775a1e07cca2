import ZaloBot.ReceiptStatements

/-!
# Statements on expenses

The statements of ingress effects that change expenses outside the receipt
lifecycle, as sessions over the bot's rows.
-/

namespace ZaloBot

open Sessions

inductive IngressEffectError where
  | versionConflict
  | notFound
  | invalidTransition
deriving DecidableEq, Repr

/-- `Display for IngressEffectError`. -/
def IngressEffectError.message : IngressEffectError → String
  | .versionConflict => "version conflict"
  | .notFound => "not found"
  | .invalidTransition => "invalid transition"

namespace Expenses

variable {Event : Type}

/-- Statements of ingress effects. -/
abbrev Statement (Event Value : Type) :=
  Session BotRow Event IngressEffectError Value

/-- `SELECT EXISTS(SELECT 1 FROM categories WHERE key = $1)`. -/
def categoryExists (categoryKey : String) : Statement Event Bool :=
  .query .invalidTransition fun _ => decide (categoryKey ∈ categoryKeys)

/-- `recategorize_latest_in_transaction`; `latest` is the row that the ordered
selection finds.  The draft update may fail unnoticed, but then every further
statement of the transaction fails. -/
def recategorizeLatestInTransaction (latest : Option Uuid)
    (accountId : Uuid) (categoryKey : String) : Statement Event Unit := do
  let known ← categoryExists categoryKey
  if known then
    match latest with
    | none => .fail .notFound
    | some expenseId => do
        let selected ← .selectForUpdate .invalidTransition
          (BotKey.expense expenseId)
          (fun row => row.accountId = accountId && row.state = .confirmed)
        match selected with
        | none => .fail .notFound
        | some expense => do
            let updated ← .updateRow .invalidTransition
              (BotKey.expense expenseId) (·.accountId = accountId)
              fun row => { row with categoryKey := categoryKey }
            if updated then
              match expense.receiptSubmissionId with
              | none => pure ()
              | some submissionId => do
                  let _ ← .updateRow .invalidTransition
                    (BotKey.draft submissionId) (·.accountId = accountId)
                    fun draft => { draft with categoryKey := categoryKey }
                  pure ()
            else
              .fail .notFound
  else
    .fail .invalidTransition

end Expenses

end ZaloBot
