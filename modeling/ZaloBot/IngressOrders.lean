import ZaloBot.IngressMoves

/-!
# Orders along which rows move

What an account, an expense and a conversation keep whatever events do to them.
Expenses and conversations carry versions: while an expense waits for its
confirmation every change gives it a new version, and once it is settled only
the category of a confirmed one can change; every change of a conversation
gives it a new version.
-/

namespace ZaloBot

open Sessions

/-- One step of the life of an account. -/
inductive LifecycleState.Step : LifecycleState → LifecycleState → Prop where
  | consent : Step .pendingConsent .active
  | delete : Step .active .deleting

theorem LifecycleState.ne_pendingConsent_of_steps
    {state next : LifecycleState} (steps : Relation.ReflTransGen Step state next)
    (granted : state ≠ .pendingConsent) : next ≠ .pendingConsent := by
  refine chain_keeps (· ≠ .pendingConsent) ?_ steps granted
  intro _ _ step _
  cases step <;> simp

theorem LifecycleState.eq_deleting_of_steps
    {state next : LifecycleState} (steps : Relation.ReflTransGen Step state next)
    (deleting : state = .deleting) : next = .deleting := by
  refine chain_keeps (· = .deleting) ?_ steps deleting
  rintro _ _ step rfl
  cases step

namespace Ingress

variable {accountId : Option Uuid} {effects : List IngressEffect} {id : Uuid}

section Accounts

/-- How an account changes over time. -/
structure AccountStays (row next : AccountRow) : Prop where
  lifecycle : Relation.ReflTransGen LifecycleState.Step row.lifecycleState
    next.lifecycleState
  currency : next.defaultCurrency = row.defaultCurrency
  retention : next.retentionPreferenceDays = row.retentionPreferenceDays
  consent : row.lifecycleState ≠ .pendingConsent ∨
    next.lifecycleState = .pendingConsent →
      next.consentVersion = row.consentVersion ∧
        next.consentedAt = row.consentedAt

theorem AccountStays.refl (row : AccountRow) : AccountStays row row :=
  ⟨.refl, rfl, rfl, fun _ => ⟨rfl, rfl⟩⟩

theorem AccountStays.trans {row middle next : AccountRow}
    (begun : AccountStays row middle) (ended : AccountStays middle next) :
    AccountStays row next where
  lifecycle := begun.lifecycle.trans ended.lifecycle
  currency := ended.currency.trans begun.currency
  retention := ended.retention.trans begun.retention
  consent settled := by
    have keptLater : middle.lifecycleState ≠ .pendingConsent ∨
        next.lifecycleState = .pendingConsent :=
      settled.imp_left
        (LifecycleState.ne_pendingConsent_of_steps begun.lifecycle)
    have keptEarlier : row.lifecycleState ≠ .pendingConsent ∨
        middle.lifecycleState = .pendingConsent :=
      settled.imp_right fun pending => by
        by_contra granted
        exact LifecycleState.ne_pendingConsent_of_steps ended.lifecycle
          granted pending
    have later := ended.consent keptLater
    have earlier := begun.consent keptEarlier
    exact ⟨later.1.trans earlier.1, later.2.trans earlier.2⟩

/-- Accounts do not vanish. -/
def AccountOrder (old new : Option AccountRow) : Prop :=
  ∀ row, old = some row → ∃ next, new = some next ∧ AccountStays row next

instance : Std.Refl AccountOrder :=
  ⟨fun _ row present => ⟨row, present, .refl row⟩⟩

instance : IsTrans (Option AccountRow) AccountOrder where
  trans _ _ _ begun ended row present := by
    obtain ⟨middle, isMiddle, stays⟩ := begun row present
    obtain ⟨next, isNext, staysLater⟩ := ended middle isMiddle
    exact ⟨next, isNext, stays.trans staysLater⟩

theorem AccountMove.order {old new : Option AccountRow} (move : AccountMove effects old new) :
    AccountOrder old new := by
  intro found present
  cases move with
  | opened => contradiction
  | consented row version now pending asked =>
      cases present
      refine ⟨_, rfl, ?_, rfl, rfl, ?_⟩
      · rw [pending]
        exact .single .consent
      · simp [pending]
  | translated row locale =>
      cases present
      exact ⟨_, rfl, .refl, rfl, rfl, fun _ => ⟨rfl, rfl⟩⟩
  | relocated row timezone =>
      cases present
      exact ⟨_, rfl, .refl, rfl, rfl, fun _ => ⟨rfl, rfl⟩⟩
  | deleting row alive asked =>
      cases present
      refine ⟨_, rfl, ?_, rfl, rfl, fun _ => ⟨rfl, rfl⟩⟩
      rcases alive with active | deleting
      · rw [active]
        exact .single .delete
      · rw [deleting]

end Accounts

section Expenses

/-- How an expense changes over time. -/
structure ExpenseStays (row next : ExpenseRow) : Prop where
  owner : next.accountId = row.accountId
  currency : next.currency = row.currency
  source : next.source = row.source
  submission : next.receiptSubmissionId = row.receiptSubmissionId
  version : row.version ≤ next.version
  settled : row.state ≠ .awaitingConfirmation →
    next = { row with categoryKey := next.categoryKey }
  unchanged : row.state ≠ .confirmed → next.version = row.version → next = row

theorem ExpenseStays.refl (row : ExpenseRow) : ExpenseStays row row :=
  ⟨rfl, rfl, rfl, rfl, le_refl _, fun _ => rfl, fun _ _ => rfl⟩

theorem ExpenseStays.trans {row middle next : ExpenseRow}
    (begun : ExpenseStays row middle) (ended : ExpenseStays middle next) :
    ExpenseStays row next where
  owner := ended.owner.trans begun.owner
  currency := ended.currency.trans begun.currency
  source := ended.source.trans begun.source
  submission := ended.submission.trans begun.submission
  version := begun.version.trans ended.version
  settled isSettled := by
    have recategorized := begun.settled isSettled
    have sameState : middle.state = row.state := by rw [recategorized]
    rw [ended.settled (sameState ▸ isSettled), recategorized]
  unchanged notConfirmed sameVersion := by
    have still : middle.version = row.version :=
      le_antisymm (sameVersion ▸ ended.version) begun.version
    have same := begun.unchanged notConfirmed still
    subst same
    exact ended.unchanged notConfirmed sameVersion

/-- Expenses do not vanish. -/
def ExpenseOrder (old new : Option ExpenseRow) : Prop :=
  ∀ row, old = some row → ∃ next, new = some next ∧ ExpenseStays row next

instance : Std.Refl ExpenseOrder :=
  ⟨fun _ row present => ⟨row, present, .refl row⟩⟩

instance : IsTrans (Option ExpenseRow) ExpenseOrder where
  trans _ _ _ begun ended row present := by
    obtain ⟨middle, isMiddle, stays⟩ := begun row present
    obtain ⟨next, isNext, staysLater⟩ := ended middle isMiddle
    exact ⟨next, isNext, stays.trans staysLater⟩

theorem ExpenseMove.order {old new : Option ExpenseRow}
    (move : ExpenseMove accountId effects id old new) :
    ExpenseOrder old new := by
  intro found present
  cases move with
  | entered | booked => contradiction
  | settled row state isOwner awaiting asked =>
      cases present
      exact ⟨_, rfl, rfl, rfl, rfl, rfl, by simp,
        fun settled => absurd awaiting settled, fun _ same => by simp at same⟩
  | edited row edit isOwner awaiting asked named category =>
      cases present
      exact ⟨_, rfl, rfl, rfl, rfl, rfl, by simp,
        fun settled => absurd awaiting settled, fun _ same => by simp at same⟩
  | recategorized row categoryKey isOwner confirmed asked category =>
      cases present
      exact ⟨_, rfl, rfl, rfl, rfl, rfl, le_refl _, fun _ => rfl,
        fun notConfirmed => absurd confirmed notConfirmed⟩

end Expenses

section Conversations

/-- Conversations do not vanish, and change under new versions only. -/
def ConversationOrder (old new : Option ConversationRow) : Prop :=
  ∀ row, old = some row → ∃ next, new = some next ∧
    row.version ≤ next.version ∧ (next.version = row.version → next = row)

instance : Std.Refl ConversationOrder :=
  ⟨fun _ row present => ⟨row, present, le_refl _, fun _ => rfl⟩⟩

instance : IsTrans (Option ConversationRow) ConversationOrder where
  trans _ _ _ begun ended row present := by
    obtain ⟨middle, isMiddle, grows, same⟩ := begun row present
    obtain ⟨next, isNext, growsLater, sameLater⟩ := ended middle isMiddle
    refine ⟨next, isNext, grows.trans growsLater, fun sameVersion => ?_⟩
    have still : middle.version = row.version :=
      le_antisymm (sameVersion ▸ growsLater) grows
    have sameRow := same still
    subst sameRow
    exact sameLater sameVersion

theorem ConversationMove.order {old new : Option ConversationRow}
    (move : ConversationMove effects old new) : ConversationOrder old new := by
  intro found present
  cases move with
  | begun => contradiction
  | armed row | cleared row | abandoned row =>
      cases present
      exact ⟨_, rfl, by simp, fun same => by simp at same⟩

end Conversations

end Ingress

end ZaloBot
