import ZaloBot.SessionComposition
import ZaloBot.WorkerExecutions

/-!
# Receipts under workers

The discipline of the receipt lifecycle also holds of the database of receipts
and jobs.  Executions change submissions only through the calls of the receipt
lifecycle, and claims, settlements and follow-ups leave the receipts alone, so
every operation that completes under the discipline completes inside an
execution as well.
-/

namespace ZaloBot

open Sessions LabelledRuns TaskPool

/-- Publications move the receipts forward, whatever they are for. -/
def progressRules (Event : Type) : Discipline BotRow Event ReceiptFailure where
  invariant := ReceiptInvariant
  advances := ReceiptAdvances
  permitted _ _ := True
  guarantee before _ after := ReceiptProgress before after
  refusal _ _ := True
  advances_refl := .refl
  advances_trans := .trans
  keeps _ guaranteed := ⟨guaranteed.invariant, guaranteed.advances⟩

theorem combines_receiptRules {refusal : ReceiptFailure → BotStore → Prop} :
    Discipline.Combines (receiptRules refusal) (receiptRules refusal)
      (progressRules ReceiptEvent) where
  invariant holds := ⟨holds, holds⟩
  advances advances := ⟨advances, advances⟩
  permitted _ := ⟨trivial, trivial⟩
  guarantee _ guaranteed _ := guaranteed.1
  refusal _ _ := trivial

namespace Receipts

/-- An operation that completes under the discipline. -/
theorem Completes.triple {Value : Type} {operation : Operation Value}
    (completes : Completes operation) :
    (progressRules ReceiptEvent).Triple .free (fun _ => True) operation
      fun _ _ => True := by
  have verified : (receiptRules fun _ _ => True).Triple .free
      (fun _ => True) operation fun _ _ => True :=
    .of_wp fun store holds _ => completes store holds _ _
      (fun _ _ _ => trivial) fun _ _ _ => ⟨rfl, trivial⟩
  exact (combines_receiptRules.triple verified verified).consequence
    (fun _ _ => id) fun _ _ _ _ => trivial

end Receipts

namespace Workers

open Receipts

/-- The rows of jobs and messages are no receipts. -/
theorem indifferent_progressRules :
    Indifferent (progressRules LeasedEvent)
      fun key => key.isReceiptRow = false where
  guarantees before event after holds same := by
    refine ReceiptProgress.undisturbed (.refl holds) (.of_receiptRows ?_)
    exact fun key isRow => same key (by rw [isRow]; decide)
  refuses _ _ _ := trivial

theorem progress_executes :
    ExecutionRules (progressRules LeasedEvent) .free (fun _ => True)
      (fun _ _ _ => True) fun _ _ => True := by
  have calls {Value : Type} {operation : Operation Value} {job : ClaimedJob}
      (completes : Completes operation) :
      (progressRules LeasedEvent).Triple .free (fun _ => True)
        (onReceipts job operation).attempt fun _ _ => True := by
    have keeps : ((progressRules LeasedEvent).withRefusal
        fun _ _ => True).Triple .free (fun _ => True)
          (onReceipts job operation) fun _ _ => True :=
      .mapEvent completes.triple
    exact keeps.attempt.consequence (fun _ _ => id) fun _ _ _ _ => trivial
  refine indifferent_progressRules.executes (fun _ => rfl) ?_ ?_ ?_ ?_
  · exact ⟨fun _ _ _ _ _ => rfl, fun _ _ => rfl, fun _ _ => rfl,
      fun _ _ => rfl⟩
  · exact fun _ _ _ _ _ _ => calls completes_failQueued
  · exact fun _ _ _ _ _ _ _ _ => calls completes_ingest
  · exact fun _ _ _ _ _ _ => calls completes_extract

/-- Calls of the receipt lifecycle outside executions. -/
theorem progress_receipts :
    (progressRules LeasedEvent).VerifiesAll (fun _ _ => True)
      (fun request => serve (.receipt request)) fun _ _ => True := by
  intro request floor store holds since
  unfold serve
  rw [Discipline.wpSince_bind, Discipline.wpSince_mapEvent]
  have verified : (receiptRules ReceiptMachine.refusal).wpSince
      (fun _ _ => True) floor (ReceiptMachine.serve request) Overlay.none store
      fun response _ _ later => ReceiptMachine.returns response later :=
    Discipline.wpSince_of_wp (ReceiptMachine.wp_serve request holds)
  exact Discipline.wpSince_mono (fun _ _ => id) (fun _ _ _ _ _ => trivial)
    (combines_receiptRules.wpSince holds verified verified)

/-- Everything that runs moves the receipts forward. -/
theorem progress_verifiesAll :
    (progressRules LeasedEvent).VerifiesAll (fun _ _ => True) serve
      fun _ _ => True :=
  (indifferent_progressRules.serves (fun _ => rfl)
    progress_receipts).verifiesAll progress_executes (fun _ _ => trivial)
    fun _ => trivial

/-- Every run keeps the invariant of the receipts. -/
theorem receiptInvariant_of_reaches {initial : BotStore} {pool : WorkerPool}
    (fresh : ReceiptMachine.WithoutReceipts initial)
    (run : SessionReaches serve (Pool.idle (Database.fresh initial)) pool) :
    ReceiptInvariant pool.world.store :=
  (Discipline.sound_of_reaches progress_verifiesAll fresh.invariant
    (fun _ _ _ => ⟨fun _ _ _ _ _ _ => trivial, fun _ _ _ _ => trivial⟩)
    run).shared.invariant

end Workers

end ZaloBot
