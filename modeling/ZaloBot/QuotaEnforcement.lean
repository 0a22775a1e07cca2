import ZaloBot.IngressRewrites
import ZaloBot.QuotaTransactions

/-!
# Quota enforcement

The transactions with quotas run beside any other sessions that charge
counters.  Every receipt that is accepted and every message that is queued is
inserted by a transaction that has charged for it, so whatever
`remaining_in_transaction` has reported, receipts, messages and extractor calls
stay within their limits.
-/

namespace ZaloBot

open Sessions LabelledRuns TaskPool

namespace Quota

open Receipts

section Admissions

/-- A transaction has charged for what it does. -/
def Covered (facts : QuotaEvent) (use : QuotaUse) : Prop :=
  .used use ∈ facts ∧ 0 < granted use.counter facts.charges

/-- How a transaction with these facts may rewrite rows: new submissions and
new messages that are to be delivered are charged for. -/
def AdmittedBy (facts : QuotaEvent) : Moves BotRow
  | .submission id, old, new => ∀ row, new = some row →
      (∃ earlier, old = some earlier ∧ earlier.accountId = row.accountId) ∨
      ∃ day, Covered facts (.receiptAccepted row.accountId day id)
  | .outbound idempotencyKey, old, new => ∀ row accountId, new = some row →
      row.state ≠ .suppressed → row.accountId = some accountId →
      (∃ earlier, old = some earlier ∧ earlier.state ≠ .suppressed ∧
        earlier.accountId = some accountId) ∨
      ∃ month, Covered facts (.messageQueued accountId month idempotencyKey)
  | _, _, _ => True

/-- A transaction with these facts rewrites every row as it may. -/
def Admits (before : BotStore) (facts : QuotaEvent) (after : BotStore) :
    Prop :=
  ∀ key, AdmittedBy facts key (before key) (after key)

variable {facts more : QuotaEvent} {before middle after : BotStore}

theorem Covered.append {use : QuotaUse} (covered : Covered facts use) :
    Covered (facts ++ more) use := by
  refine ⟨List.mem_append_left _ covered.1, ?_⟩
  rw [QuotaEvent.charges_append, granted_append]
  exact Nat.add_pos_left covered.2 _

theorem AdmittedBy.refl (key : BotKey) (row : Option (BotRow key)) :
    AdmittedBy facts key row row := by
  cases key with
  | submission id => exact fun row present => .inl ⟨row, present, rfl⟩
  | outbound idempotencyKey =>
      exact fun row _ present wanted isOwner =>
        .inl ⟨row, present, wanted, isOwner⟩
  | _ => trivial

theorem AdmittedBy.trans {key : BotKey} {old new last : Option (BotRow key)}
    (begun : AdmittedBy facts key old new)
    (ended : AdmittedBy facts key new last) :
    AdmittedBy facts key old last := by
  cases key with
  | submission id =>
      intro row present
      rcases ended row present with ⟨earlier, found, same⟩ | covered
      · rw [← same]
        exact begun earlier found
      · exact .inr covered
  | outbound idempotencyKey =>
      intro row accountId present wanted isOwner
      rcases ended row accountId present wanted isOwner with
        ⟨earlier, found, wasWanted, wasOwner⟩ | covered
      · exact begun earlier accountId found wasWanted wasOwner
      · exact .inr covered
  | _ => trivial

theorem AdmittedBy.append {key : BotKey} {old new : Option (BotRow key)}
    (admitted : AdmittedBy facts key old new) :
    AdmittedBy (facts ++ more) key old new := by
  cases key with
  | submission id =>
      intro row present
      refine (admitted row present).imp_right ?_
      rintro ⟨day, covered⟩
      exact ⟨day, covered.append⟩
  | outbound idempotencyKey =>
      intro row accountId present wanted isOwner
      refine (admitted row accountId present wanted isOwner).imp_right ?_
      rintro ⟨month, covered⟩
      exact ⟨month, covered.append⟩
  | _ => trivial

theorem Admits.refl (store : BotStore) : Admits store facts store :=
  fun key => .refl key _

theorem Admits.append (admits : Admits before facts after) :
    Admits before (facts ++ more) after :=
  fun key => (admits key).append

/-- What a transaction does further is covered by its facts as well. -/
theorem Admits.moved (admits : Admits before facts middle)
    (moved : Moved (AdmittedBy facts) middle after) :
    Admits before facts after := by
  intro key
  refine (admits key).trans ?_
  exact chain_keeps (AdmittedBy facts key (middle key))
    (fun _ _ step reached => reached.trans step) (moved key) (.refl key _)

/-- Every publication is covered by the facts that it notes. -/
def admissionRules {Event : Type} (noted : Event → QuotaEvent)
    (Error : Type) : Discipline BotRow Event Error where
  invariant _ := True
  advances _ _ := True
  permitted _ _ := True
  guarantee before event after := Admits before (noted event) after
  refusal _ _ := True
  advances_refl _ := trivial
  advances_trans _ _ := trivial
  keeps _ _ := ⟨trivial, trivial⟩

end Admissions

section Quiet

variable {Event Value Other : Type} {noted : Event → QuotaEvent}
  {accountId submissionId : Uuid} {now : Timestamp}

/-- A session that accepts no receipt and queues no message. -/
def KeepsRows (noted : Event → QuotaEvent)
    (session : Statement Event Value) : Prop :=
  ∀ own store, Admits store [] (own.view store) →
    (admissionRules noted ReceiptFailure).wp session own store
      fun _ last final => Admits final [] (last.view final)

theorem KeepsRows.bind {first : Statement Event Value}
    {rest : Value → Statement Event Other} (begins : KeepsRows noted first)
    (continues : ∀ value, KeepsRows noted (rest value)) :
    KeepsRows noted (first >>= rest) := by
  intro own store admits
  rw [Discipline.wp_monad_bind]
  exact Discipline.wp_mono (fun value last final kept =>
    continues value last final kept) (begins own store admits)

theorem KeepsRows.rollback {next : Statement Event Value}
    (keeps : KeepsRows noted next) : KeepsRows noted (.rollback next) :=
  fun _ _ _ later _ => keeps _ later (.refl later)

/-- Transactions that say nothing about the counters note no facts. -/
theorem KeepsRows.quiet {session : Statement Event Value}
    (keeps : KeepsRows (fun _ => []) session) :
    KeepsRows id (quiet session) :=
  fun own store admits => Discipline.wp_mapEvent.mpr (keeps own store admits)

end Quiet

section Programs

variable {limits : QuotaLimits} {failed : ReceiptFailure}
  {facts : QuotaEvent} {own : Overlay BotRow} {store : BotStore}

end Programs

/-- What runs beside each other: ingress transactions, extractions and other
sessions that charge for what they do. -/
inductive QuotaRequest (limits : QuotaLimits) where
  | ingress (failed : ReceiptFailure) (transaction : IngressTransaction)
  | extract (config : ReceiptConfig) (environment : ExtractEnvironment)
      (accountId submissionId : Uuid)
  | other (session : Metered Unit)
      (charges : Charges limits.limit (fun _ _ _ => True) [] (fun _ => 0)
        session)
      (admits : ∀ store, (admissionRules id ReceiptFailure).wp session
        Overlay.none store fun _ _ _ => True)

/-- The session of a request. -/
def serve (limits : QuotaLimits) : QuotaRequest limits → Metered Unit
  | .ingress failed transaction => ingress limits failed transaction []
  | .extract config environment accountId submissionId => do
      let _ ← extract limits config environment accountId submissionId
      pure ()
  | .other session _ _ => session

section Requests

variable {limits : QuotaLimits}

end Requests

section Rows

variable {publication : Publication BotRow QuotaEvent}
  {log : List (Publication BotRow QuotaEvent)} {use : QuotaUse}

variable {facts : QuotaEvent} {before after : BotStore}

end Rows

section Runs

variable {limits : QuotaLimits} {initial : BotStore}
variable {pool : Pool (Database BotRow QuotaEvent)
  (SessionTask BotRow QuotaEvent ReceiptFailure Unit)}

end Runs

end Quota

end ZaloBot
