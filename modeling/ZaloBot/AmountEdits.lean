import ZaloBot.AmountUnits
import ZaloBot.DraftEdits
import ZaloBot.IngressProcess
import ZaloBot.MerchantEdits
import ZaloBot.ParsingSafety

/-!
# Edits of amounts

The amount of an edit is read with the currency of the account as its hint, and
only the count of minor units is stored with the draft, which keeps its own
currency.  So the draft denotes what was written exactly when the text denotes
the same amount in the currency of the draft.
-/

namespace ZaloBot

namespace Conversation

open RustText

section Amounts

variable {tables : TextTables} {text : String} {intent : Intent}

/-- The amount of an edit is read with the currency of the account. -/
theorem amount_of_edit {currency : String}
    (read : parseIntentChecked tables text currency = .ok intent)
    (isEdit : intent.kind = .editAmount) :
    parseAmount tables.endsWord intent.amountText.toList currency =
      .ok (.ok (intent.amountMinor, intent.currency)) := by
  have edit := edit_of_parseIntent read (by rw [isEdit]; rfl)
  unfold parseEditOrRecatChecked at edit
  simp only at edit
  split at edit
  · cases edit
  split at edit
  · cases edit
    cases isEdit
  split at edit
  · cases edit
  split at edit
  · cases edit
  rename_i rest _ _
  unfold parseEditChecked at edit
  split at edit
  · split at edit
    · cases edit
    · rename_i value _ _
      cases extracted : extractAfterKeywords tables
          (trimCommandPunctuation (trimCommandPunctuation text))
          merchantKeywords with
      | error panic =>
          rw [extracted] at edit
          cases edit
      | ok found =>
          rw [extracted, ok_bind] at edit
          cases edit
          cases isEdit
  split at edit
  · cases edit
    cases isEdit
  split at edit
  · obtain ⟨_, _, rfl⟩ := Option.map_eq_some_iff.mp (Except.ok.inj edit)
    cases isEdit
  split at edit
  · obtain ⟨_, _, rfl⟩ := Option.map_eq_some_iff.mp (Except.ok.inj edit)
    cases isEdit
  unfold amountOf at edit
  cases amount : parseAmount tables.endsWord rest.toList currency with
  | error panic =>
      rw [amount] at edit
      cases edit
  | ok result =>
      rw [amount] at edit
      simp only [ok_bind] at edit
      obtain ⟨money, isMoney, rfl⟩ :=
        Option.map_eq_some_iff.mp (Except.ok.inj edit)
      cases result with
      | error error => cases isMoney
      | ok value =>
          cases isMoney
          exact amount

end Amounts

end Conversation

namespace Ingress

open Conversation Sessions

section Money

variable {tables : TextTables} {zones : ZoneLibrary} {texts : CardTexts}
  {context : AccountContext} {text : String} {now : Timestamp}
  {outcome : ConversationOutcome} {pending : PendingConfirmation}
  {intent : Intent} {patch : DraftPatch}

/-- The amount of the draft that a confirmation is about, in minor units of its
currency. -/
def draftMoney (view : BotStore) (pending : PendingConfirmation) :
    Option (Int × String) :=
  if pending.kind = .receiptReview then
    (view (.draft pending.referenceId)).map fun row =>
      (row.amountMinor, row.currency)
  else
    (view (.expense pending.referenceId)).map fun row =>
      (row.amountMinor, row.currency)

variable {Event : Type} {event : Event} {environment : EffectEnvironment}
  {contextEnvironment : ContextEnvironment} {policy : IngressPolicy}
  {accountId inboundEventId : Uuid} {request : IngressRequest}
  {stateVersion : Option Int} {effect : IngressEffect}
  {view after : BotStore} {reply : Option String} {edit : DraftEdit}

/-- An edit of an amount leaves the currency alone. -/
theorem draftMoney_edited
    (mapped : mapCommand stateVersion inboundEventId
      (editCommand pending edit) = .ok effect)
    (applies : (applyEffect event environment contextEnvironment policy
      accountId inboundEventId request effect).applied view =
        .ok (reply, after)) :
    ∃ amountMinor currency,
      draftMoney view pending = some (amountMinor, currency) ∧
      draftMoney after pending =
        some (edit.amountMinor.getD amountMinor, currency) := by
  unfold draftMoney
  by_cases kind : pending.kind = .receiptReview
  · obtain ⟨_, submission, draft, _, _, _, stored, _, _, rfl⟩ :=
      receipt_edit_applied kind mapped applies
    rw [if_pos kind, if_pos kind, stored, Function.update_self]
    exact ⟨draft.amountMinor, draft.currency, rfl, rfl⟩
  · obtain ⟨_, row, stored, _, rfl⟩ := manual_edit_applied kind mapped applies
    rw [if_neg kind, if_neg kind, stored, Function.update_self]
    exact ⟨row.amountMinor, row.currency, rfl, rfl⟩

/-- What a message that edits an amount commits: the decision, the effect of
its command and the rows after it. -/
structure AmountEdit (tables : TextTables) (zones : ZoneLibrary)
    (texts : CardTexts) (context : AccountContext) (text : String)
    (now : Timestamp) (accountId : Uuid) (view : BotStore)
    (pending : PendingConfirmation) (intent : Intent) (after : BotStore) :
    Prop where
  isPending : context.pending = some pending
  read : parseIntentChecked tables text context.defaultCurrency = .ok intent
  isEdit : intent.kind = .editAmount
  applied : ∃ (outcome : ConversationOutcome) (command : DomainCommand)
      (stateVersion : Option Int) (inboundEventId : Uuid)
      (effect : IngressEffect) (event : Unit)
      (environment : EffectEnvironment)
      (contextEnvironment : ContextEnvironment) (policy : IngressPolicy)
      (request : IngressRequest) (reply : Option String),
    decideChecked tables zones texts context text now = .ok outcome ∧
      command ∈ outcome.commands ∧ command.editsDraft = true ∧
      mapCommand stateVersion inboundEventId command = .ok effect ∧
      (applyEffect event environment contextEnvironment policy accountId
        inboundEventId request effect).applied view = .ok (reply, after)

/-- The draft after an edit denotes the amount that was written: it is what the
amount reads as with the currency of the draft as its hint. -/
def DenotesWritten (tables : TextTables) (intent : Intent)
    (pending : PendingConfirmation) (view after : BotStore) : Prop :=
  ∃ before stored, draftMoney view pending = some before ∧
    draftMoney after pending = some stored ∧
    parseAmount tables.endsWord intent.amountText.toList before.2 =
      .ok (.ok stored)

/-- An edit of an amount leaves the draft with the amount that was written
exactly when the text denotes the same amount in the currency of the draft. -/
theorem amount_edit_denotes_written_iff {accountId : Uuid}
    (edit : AmountEdit tables zones texts context text now accountId view
      pending intent after) :
    DenotesWritten tables intent pending view after ↔
      ∃ amountMinor currency,
        draftMoney view pending = some (amountMinor, currency) ∧
        DenotesIn tables.endsWord intent.amountText.toList
          context.defaultCurrency currency := by
  obtain ⟨outcome, command, stateVersion, inboundEventId, effect, event,
    environment, contextEnvironment, policy, request, reply, decided, member,
    edits, mapped, applies⟩ := edit.applied
  obtain ⟨decidedPending, decidedIntent, patch, editsPending⟩ :=
    decided_edit decided member edits
  have samePending : decidedPending = pending :=
    Option.some.inj (editsPending.isPending.symm.trans edit.isPending)
  have sameIntent : decidedIntent = intent :=
    Except.ok.inj (editsPending.read.symm.trans edit.read)
  subst samePending sameIntent
  have isPatch := editsPending.patched
  simp only [draftPatchFromIntent, edit.isEdit, Option.some.injEq] at isPatch
  have isCommand : command = editCommand decidedPending patch.edit := by
    rw [editsPending.isOutcome] at member
    exact List.mem_singleton.mp member
  subst isCommand isPatch
  obtain ⟨amountMinor, currency, before, stored⟩ :=
    draftMoney_edited mapped applies
  have accepted := amount_of_edit edit.read edit.isEdit
  simp only [Option.getD_some] at stored
  constructor
  · rintro ⟨first, second, isFirst, isSecond, again⟩
    rw [before] at isFirst
    rw [stored] at isSecond
    cases isFirst
    cases isSecond
    exact ⟨amountMinor, currency, before,
      (parseAmount_eq_iff_denotesIn accepted).mp again⟩
  · rintro ⟨other, otherCurrency, isOther, denotes⟩
    rw [before] at isOther
    cases isOther
    exact ⟨_, _, before, stored,
      (parseAmount_eq_iff_denotesIn accepted).mpr denotes⟩

end Money

section Samples

/-- A noodle soup that waits for its confirmation. -/
def awaitingExpense (currency : String) : ExpenseRow :=
  ⟨⟨"account"⟩, 45000, currency, 0, "pho", .manual, .awaitingConfirmation, 1,
    none, "an-uong", "expense"⟩

def awaitingStore (currency : String) : BotStore
  | .expense id =>
      if id = ⟨"expense"⟩ then some (awaitingExpense currency) else none
  | _ => none

def awaitingPending (currency : String) : PendingConfirmation :=
  ⟨.manualExpense, ⟨"expense"⟩, 1, 600,
    ⟨1, 45000, currency, "pho", "an-uong", "", "expense", "", "", 0⟩⟩

def awaitingContext (currency : String) : AccountContext :=
  { idleContext with pending := some (awaitingPending currency) }

def amountMessage : String := "edit 50k"

/-- What the message means to an account in đồng. -/
def amountIntent : Intent :=
  { Intent.of .editAmount with
    amountMinor := 50000
    currency := "VND"
    amountText := "50k" }

def amountRequest : IngressRequest :=
  ⟨.polling, "zalo", "event", "sender", "chat", true, amountMessage, 0⟩

theorem amountMessage_read :
    parseIntentChecked plainTables amountMessage "VND" = .ok amountIntent := by
  decide +kernel

theorem amountText_dollars :
    parseAmount plainTables.endsWord amountIntent.amountText.toList "USD" =
      .ok (.ok (5000000, "USD")) := by
  decide +kernel

/-- The edit that the message is decided to. -/
def amountEdit : DraftEdit :=
  ⟨some 50000, none, none, none, none⟩

theorem amountMessage_decided (currency : String) :
    ∃ card, decideChecked plainTables utcOnly blankTexts
        (awaitingContext currency) amountMessage 0 =
      .ok ⟨[.card card], [.editManualExpense ⟨"expense"⟩ 1 amountEdit]⟩ := by
  have read : parseIntentChecked plainTables amountMessage
      (awaitingContext currency).defaultCurrency = .ok amountIntent :=
    amountMessage_read
  have same : decideChecked plainTables utcOnly blankTexts
      (awaitingContext currency) amountMessage 0 =
      handleActiveChecked plainTables utcOnly blankTexts
        (awaitingContext currency) amountMessage 0 := rfl
  have noSlash : isSlashCommand amountMessage amountIntent.kind = false := by
    decide
  rw [same, handleActiveChecked, read, RustText.ok_bind]
  simp only [awaitingContext, noSlash]
  exact ⟨_, rfl⟩

/-- The draft after the message. -/
def editedStore (currency : String) : BotStore :=
  Function.update (awaitingStore currency) (.expense ⟨"expense"⟩)
    (some (editedExpense amountEdit (awaitingExpense currency)))

/-- The edit of the noodle soup. -/
def soupEdit : IngressEffect :=
  .editManualExpense ⟨"expense"⟩ 1 amountEdit

theorem soupEdit_applied (currency : String) :
    (applyEffect () stillEnvironment stillContext .default ⟨"account"⟩
      ⟨"event"⟩ amountRequest soupEdit).applied (awaitingStore currency) =
        .ok (none, editedStore currency) := by
  have described : ¬ (RustText.trim (amountEdit.merchant.getD
      (awaitingExpense currency).description)).isEmpty = true := by
    rw [show (awaitingExpense currency).description = "pho" from rfl]
    decide
  have valid : (validateTransactionType (amountEdit.transactionType.getD
      (awaitingExpense currency).transactionType)).toBool = true := by
    rw [show (awaitingExpense currency).transactionType = "expense" from rfl]
    decide
  rw [soupEdit, applyEffect, applied_silently_eq_ok]
  refine ⟨?_, rfl⟩
  unfold editManualExpenseInTransaction
  have selected : ((awaitingStore currency) (.expense ⟨"expense"⟩)).filter
      (isAwaiting ⟨"account"⟩ 1) = some (awaitingExpense currency) := by
    rfl
  refine applied_bind_eq_ok.mpr ⟨_, _, applied_selectForUpdate, ?_⟩
  rw [selected]
  simp only
  rw [if_neg described]
  refine applied_bind_eq_ok.mpr ⟨true, _, rfl, ?_⟩
  rw [if_pos rfl, if_pos valid]
  refine applied_bind_eq_ok.mpr ⟨true, _, ?_, rfl⟩
  rw [applied_updateRow, selected]
  rfl

theorem amountMessage_edit (currency : String) :
    AmountEdit plainTables utcOnly blankTexts (awaitingContext currency)
      amountMessage 0 ⟨"account"⟩ (awaitingStore currency)
      (awaitingPending currency) amountIntent (editedStore currency) where
  isPending := rfl
  read := amountMessage_read
  isEdit := rfl
  applied := by
    obtain ⟨card, decided⟩ := amountMessage_decided currency
    exact ⟨_, .editManualExpense ⟨"expense"⟩ 1 amountEdit, none, ⟨"event"⟩,
      soupEdit, (), stillEnvironment, stillContext, .default, amountRequest,
      none, decided, List.mem_singleton.mpr rfl, rfl, rfl,
      soupEdit_applied currency⟩

theorem amount_edit_of_dong :
    DenotesWritten plainTables amountIntent (awaitingPending "VND")
        (awaitingStore "VND") (editedStore "VND") ↔
      ∃ amountMinor currency,
        draftMoney (awaitingStore "VND") (awaitingPending "VND") =
          some (amountMinor, currency) ∧
        DenotesIn plainTables.endsWord amountIntent.amountText.toList
          (awaitingContext "VND").defaultCurrency currency :=
  amount_edit_denotes_written_iff (amountMessage_edit "VND")

/-- Fifty thousand dollars become five hundred: the amount is read in đồng,
and the draft takes its count for cents. -/
theorem amount_edit_of_dollars_is_cents :
    AmountEdit plainTables utcOnly blankTexts (awaitingContext "USD")
        amountMessage 0 ⟨"account"⟩ (awaitingStore "USD")
        (awaitingPending "USD") amountIntent (editedStore "USD") ∧
      ¬ DenotesWritten plainTables amountIntent (awaitingPending "USD")
        (awaitingStore "USD") (editedStore "USD") := by
  refine ⟨amountMessage_edit "USD", ?_⟩
  rintro ⟨before, stored, isBefore, isStored, again⟩
  cases isBefore
  cases isStored
  cases amountText_dollars.symm.trans again

end Samples

end Ingress

end ZaloBot
