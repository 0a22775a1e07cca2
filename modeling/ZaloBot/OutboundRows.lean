import Mathlib.Data.List.Sort
import ZaloBot.KeyedTable
import ZaloBot.ProviderSend
import ZaloBot.WorkTypes

/-!
# The outbox table and its statements

Rows of `outbound_messages`, the statements that reserve and settle them, and
what the two delivery paths record for a send result.
-/

namespace ZaloBot

open ProviderSend

inductive OutboundState where
  | queued
  | sending
  | sent
  | failed
  | suppressed
  | ambiguous
deriving DecidableEq, Repr

/-- One row of `outbound_messages`; the ambiguity metadata is its `reason`. -/
structure OutboundRow where
  id : Uuid
  accountId : Option Uuid
  idempotencyKey : String
  providerScope : String
  providerTarget : String
  body : String
  state : OutboundState
  providerMessageId : Option String
  attemptCount : Nat
  lastErrorClass : Option String
  ambiguityReason : Option String
  createdAt : Timestamp
  updatedAt : Timestamp
deriving DecidableEq, Repr

abbrev OutboundTable := Table OutboundRow.id

inductive DeliveryState where
  | sent
  | failed
  | ambiguous
deriving DecidableEq, Repr

/-- The row state a delivery state is stored as. -/
def DeliveryState.rowState : DeliveryState → OutboundState
  | .sent => .sent
  | .failed => .failed
  | .ambiguous => .ambiguous

structure DeliveryResult where
  outboundId : Uuid
  state : DeliveryState
deriving DecidableEq, Repr

/-- Result of executing one leased `outbound.deliver` job. -/
inductive OutboundJobExecution where
  | complete (result : DeliveryResult)
  | fail (errorClass : ErrorClass)
  | staleLease
  | invalidJob
deriving DecidableEq, Repr

/-- The result of `send_message`. -/
abbrev SendResult := Except ZaloProviderError SendMessageResult

/-- The delivery state both delivery paths choose for a send result. -/
def SendResult.deliveryState : SendResult → DeliveryState
  | .ok _ => .sent
  | .error error =>
      if error.errorClass = .providerAmbiguous then .ambiguous else .failed

/-- The provider message id both delivery paths store. -/
def SendResult.storedMessageId : SendResult → Option String
  | .ok sent =>
      if sent.providerMessageId.isEmpty then none
      else some sent.providerMessageId
  | .error _ => none

/-- The error class both delivery paths store. -/
def SendResult.storedErrorClass : SendResult → Option String
  | .ok _ => none
  | .error error => some error.errorClass.asStr

/-- The execution result of a settled send under a lease. -/
def SendResult.execution (outboundId : Uuid) (result : SendResult) :
    OutboundJobExecution :=
  match result with
  | .ok _ => .complete ⟨outboundId, .sent⟩
  | .error error =>
      if result.deliveryState = .ambiguous then
        .complete ⟨outboundId, .ambiguous⟩
      else
        .fail error.errorClass

namespace OutboundRow

/-- `SET state = 'sending', attempt_count = attempt_count + 1`. -/
def markSending (now : Timestamp) : Table.Setter OutboundRow.id where
  apply row :=
    { row with
      state := .sending
      attemptCount := row.attemptCount + 1
      updatedAt := now }

/-- `SET state = 'ambiguous'` for a send that was never settled. -/
def markRecovered (now : Timestamp) : Table.Setter OutboundRow.id where
  apply row :=
    { row with
      state := .ambiguous
      lastErrorClass := some ErrorClass.providerAmbiguous.asStr
      ambiguityReason := some "recovered_after_unfinished_send"
      updatedAt := now }

/-- The `SET` clause of `update_delivery` and `update_delivery_under_lease`. -/
def markDelivered (now : Timestamp) (result : SendResult) :
    Table.Setter OutboundRow.id where
  apply row :=
    { row with
      state := result.deliveryState.rowState
      providerMessageId := result.storedMessageId
      lastErrorClass := result.storedErrorClass
      ambiguityReason :=
        if result.deliveryState = .ambiguous then
          some "provider_result_ambiguous"
        else
          none
      updatedAt := now }

/-- `state IN ('queued', 'failed')`. -/
def isReservable (row : OutboundRow) : Bool :=
  row.state = .queued || row.state = .failed

/-- `state = 'sending'`. -/
def isSending (row : OutboundRow) : Bool :=
  row.state = .sending

end OutboundRow

namespace Outbound

/-- A conditional update of one row by id: the new table when the row was
affected. -/
def updateRow (outboundId : Uuid) (guard : OutboundRow → Bool)
    (set : Table.Setter OutboundRow.id) (rows : OutboundTable) :
    Option OutboundTable :=
  if (rows.find outboundId).any guard then
    some (rows.modify outboundId guard set)
  else
    none

/-- `update_delivery`: `none` when no row was affected. -/
def updateDelivery (now : Timestamp) (outboundId : Uuid)
    (result : SendResult) (rows : OutboundTable) : Option OutboundTable :=
  updateRow outboundId OutboundRow.isSending
    (OutboundRow.markDelivered now result) rows

/-- `ORDER BY created_at, id`. -/
def deliveryOrder (first second : OutboundRow) : Prop :=
  first.createdAt < second.createdAt ∨
    (first.createdAt = second.createdAt ∧ first.id.text ≤ second.id.text)

instance : DecidableRel deliveryOrder := fun _ _ =>
  inferInstanceAs (Decidable (_ ∨ _))

/-- The candidate of `deliver_next`: the first queued row of the provider
scope that is not locked. -/
def nextCandidate (rowLocked : Uuid → Bool) (rows : OutboundTable) :
    Option OutboundRow :=
  ((rows.rows.filter fun row : OutboundRow =>
    row.state = .queued && row.providerScope = "zalo_bot").insertionSort
      deliveryOrder).find? fun row => !rowLocked row.id

/-- A row affected by a conditional update is found and guarded. -/
theorem updateRow_eq_some {outboundId : Uuid} {guard : OutboundRow → Bool}
    {set : Table.Setter OutboundRow.id} {rows after : OutboundTable}
    (updated : updateRow outboundId guard set rows = some after) :
    ∃ row, rows.find outboundId = some row ∧ guard row = true ∧
      after.find outboundId = some (set.apply row) ∧
      ∀ other, other ≠ outboundId → after.find other = rows.find other := by
  unfold updateRow at updated
  split at updated
  · rename_i affected
    obtain ⟨row, found, guarded⟩ := (Option.any_eq_true _ _).mp affected
    obtain rfl := Option.some.inj updated
    refine ⟨row, found, guarded, ?_, ?_⟩
    · rw [Table.find_modify_self, found, Option.map_some, if_pos guarded]
    · exact fun other different => Table.find_modify_other different
  · contradiction

theorem nextCandidate_eq_some {rowLocked : Uuid → Bool}
    {rows : OutboundTable} {row : OutboundRow}
    (candidate : nextCandidate rowLocked rows = some row) :
    row ∈ rows ∧ row.state = .queued := by
  have member := List.mem_of_find?_eq_some candidate
  rw [List.mem_insertionSort, List.mem_filter] at member
  simp only [Bool.and_eq_true, decide_eq_true_eq] at member
  exact ⟨member.1, member.2.1⟩

end Outbound

end ZaloBot
