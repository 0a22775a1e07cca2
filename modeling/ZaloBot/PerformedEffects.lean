import ZaloBot.IngressOrders
import ZaloBot.IngressRewrites

/-!
# What committed effects have done

An event that clears the pending action found the conversation under the
version it names and left it under another; one that settles an expense found
it awaiting under the version it names; one that confirms the deletion of the
account takes the conversation to a new version.  This holds of the rows as
they are committed, since later moves keep the order of versions.
-/

namespace ZaloBot

open Sessions

namespace Ingress

/-- The conversation had at most this version and has left it. -/
def Leaves (version : Int) (old new : Option ConversationRow) : Prop :=
  (∀ row, old = some row → row.version ≤ version) ∧
    ∃ row, new = some row ∧ version < row.version

/-- The conversation, if any, has a new version. -/
def Renews (old new : Option ConversationRow) : Prop :=
  ∀ row, old = some row → ∃ next, new = some next ∧ row.version < next.version

/-- The expense was awaiting, if it was there, and is settled so. -/
def SettlesAs (accountId : Uuid) (version : Int) (state : ExpenseState)
    (old new : Option ExpenseRow) : Prop :=
  (∀ row, old = some row →
    row.state = .awaitingConfirmation ∧ row.version ≤ version) ∧
  ∃ row, new = some row ∧ row.state = state ∧ row.accountId = accountId

/-- What an effect of the account has done to the store.  A confirmed deletion
renews a conversation that its statement has seen. -/
def Performs (seen : Prop) (accountId : Uuid) (effect : IngressEffect)
    (before after : BotStore) : Prop :=
  match effect with
  | .clearPendingAction version =>
      Leaves version (before (.conversationState accountId))
        (after (.conversationState accountId))
  | .confirmAccountDeletion =>
      seen → Renews (before (.conversationState accountId))
        (after (.conversationState accountId))
  | .confirmExpense expenseId version =>
      SettlesAs accountId version .confirmed (before (.expense expenseId))
        (after (.expense expenseId))
  | .rejectExpense expenseId version =>
      SettlesAs accountId version .rejected (before (.expense expenseId))
        (after (.expense expenseId))
  | _ => True

section Orders

variable {accountId : Uuid} {version : Int} {state : ExpenseState}

theorem Leaves.between {first old new last : Option ConversationRow}
    (begun : ConversationOrder first old) (leaves : Leaves version old new)
    (ended : ConversationOrder new last) : Leaves version first last := by
  obtain ⟨atMost, row, present, newer⟩ := leaves
  constructor
  · intro early isEarly
    obtain ⟨next, isNext, grows, _⟩ := begun early isEarly
    exact grows.trans (atMost next isNext)
  · obtain ⟨next, isNext, grows, _⟩ := ended row present
    exact ⟨next, isNext, newer.trans_le grows⟩

theorem Renews.between {first old new last : Option ConversationRow}
    (begun : ConversationOrder first old) (renews : Renews old new)
    (ended : ConversationOrder new last) : Renews first last := by
  intro row present
  obtain ⟨middle, isMiddle, grows, _⟩ := begun row present
  obtain ⟨next, isNext, newer⟩ := renews middle isMiddle
  obtain ⟨final, isFinal, growsLater, _⟩ := ended next isNext
  exact ⟨final, isFinal, (grows.trans_lt newer).trans_le growsLater⟩

theorem SettlesAs.between {first old new last : Option ExpenseRow}
    (begun : ExpenseOrder first old)
    (settles : SettlesAs accountId version state old new)
    (ended : ExpenseOrder new last)
    (isSettled : state ≠ .awaitingConfirmation) :
    SettlesAs accountId version state first last := by
  obtain ⟨awaiting, row, present, rfl, isOwner⟩ := settles
  constructor
  · intro early isEarly
    obtain ⟨next, isNext, stays⟩ := begun early isEarly
    obtain ⟨isAwaiting, atMost⟩ := awaiting next isNext
    refine ⟨?_, stays.version.trans atMost⟩
    by_contra settledEarly
    rw [stays.settled settledEarly] at isAwaiting
    exact settledEarly isAwaiting
  · obtain ⟨next, isNext, stays⟩ := ended row present
    refine ⟨next, isNext, ?_, stays.owner.trans isOwner⟩
    rw [stays.settled isSettled]

variable {effects : List IngressEffect} {request : IngressRequest}
  {before after : BotStore} {owner : Option Uuid}

theorem EventMoved.conversation {id : Uuid}
    (moved : EventMoved owner effects request before after) :
    ConversationOrder (before (.conversationState id))
      (after (.conversationState id)) :=
  Relation.reflTransGen_le_of_le (fun _ _ move => move.2.order) _ _
    (moved (.conversationState id) rfl)

theorem EventMoved.expense {id : Uuid}
    (moved : EventMoved owner effects request before after) :
    ExpenseOrder (before (.expense id)) (after (.expense id)) := by
  have chain : Relation.ReflTransGen (ExpenseMove owner effects id)
      (before (.expense id)) (after (.expense id)) := moved (.expense id) rfl
  exact Relation.reflTransGen_le_of_le (fun _ _ move => move.order) _ _ chain

theorem Performs.mono {wide narrow : Prop} {effect : IngressEffect}
    (implies : narrow → wide)
    (performs : Performs wide accountId effect before after) :
    Performs narrow accountId effect before after := by
  cases effect <;> try exact performs
  case confirmAccountDeletion => exact fun seen => performs (implies seen)

/-- Later and earlier moves of the event do not undo an effect. -/
theorem Performs.between {seen : Prop} {effect : IngressEffect}
    {first last : BotStore}
    (begun : EventMoved owner effects request first before)
    (performs : Performs seen accountId effect before after)
    (ended : EventMoved owner effects request after last) :
    Performs seen accountId effect first last := by
  cases effect <;> try trivial
  case clearPendingAction =>
      exact Leaves.between begun.conversation performs ended.conversation
  case confirmAccountDeletion =>
      exact fun isSeen =>
        Renews.between begun.conversation (performs isSeen) ended.conversation
  case confirmExpense =>
      exact SettlesAs.between begun.expense performs ended.expense (by simp)
  case rejectExpense =>
      exact SettlesAs.between begun.expense performs ended.expense (by simp)

end Orders

section Statements

variable {Event : Type} {rules : Discipline BotRow Event IngressEffectError}
  {own : Overlay BotRow} {store : BotStore} {accountId : Uuid}

theorem wp_expectAffected {error : IngressEffectError} {affected : Bool}
    {post : Unit → Overlay BotRow → BotStore → Prop}
    (refuses : ∀ error, rules.refusal error store)
    (wasAffected : affected = true → post () own store) :
    rules.wp (expectAffected error affected) own store post := by
  unfold expectAffected
  split
  · exact wasAffected ‹_›
  · exact refuses error

theorem wp_clearPending {version : Int}
    (refuses : ∀ error, rules.refusal error store) :
    rules.wp (replacePending accountId none version) own store
      fun _ last _ => Leaves version
        (own.view store (.conversationState accountId))
        (last.view store (.conversationState accountId)) := by
  unfold replacePending
  rw [Discipline.wp_monad_bind]
  refine Discipline.wp_updateRow (refuses _)
    (wp_expectAffected refuses (by simp)) fun row present meets => ?_
  have same : row.version = version := by simpa using meets
  refine wp_expectAffected refuses fun _ => ⟨fun other isOther => ?_,
    ⟨none, row.version + 1⟩, Overlay.set_view_self _ _ _ _, by simp [same]⟩
  rw [present] at isOther
  cases isOther
  exact same.le

theorem wp_settleExpense {expenseId : Uuid} {version : Int}
    {state : ExpenseState} (refuses : ∀ error, rules.refusal error store) :
    rules.wp (settleExpense accountId expenseId version state) own store
      fun _ last _ => SettlesAs accountId version state
        (own.view store (.expense expenseId))
        (last.view store (.expense expenseId)) := by
  unfold settleExpense
  rw [Discipline.wp_monad_bind]
  refine Discipline.wp_updateRow (refuses _)
    (wp_expectAffected refuses (by simp)) fun row present meets => ?_
  obtain ⟨isOwner, same, awaiting⟩ := isAwaiting_iff.mp meets
  refine wp_expectAffected refuses fun _ => ⟨fun other isOther => ?_, _,
    Overlay.set_view_self _ _ _ _, rfl, isOwner⟩
  rw [present] at isOther
  cases isOther
  exact ⟨awaiting, same.le⟩

/-- An update of a row that every earlier store holds, or that was written,
does not miss it. -/
theorem wp_updateConversation {change : ConversationRow → ConversationRow}
    {error : IngressEffectError}
    {post : Bool → Overlay BotRow → BotStore → Prop}
    (refuses : ∀ error, rules.refusal error store)
    (missed : (∃ older, rules.Earlier older store ∧
      own.view older (.conversationState accountId) = none) →
        post false own store)
    (updated : ∀ row,
      own.view store (.conversationState accountId) = some row →
      post true (own.set (.conversationState accountId) (some (change row)))
        store) :
    rules.wp (Session.updateRow error (BotKey.conversationState accountId)
      (fun _ => true) change) own store post := by
  refine ⟨fun hit => ?_, fun older isEarlier miss => ?_, refuses _⟩
  · obtain ⟨row, present, _⟩ := (Option.any_eq_true _ _).mp hit
    simpa [Discipline.wp, present, Option.filter] using updated row present
  · have absent : own.view older (.conversationState accountId) = none := by
      simpa [Option.any_eq_false, Option.eq_none_iff_forall_ne_some] using miss
    simpa [Discipline.wp, absent] using missed ⟨older, isEarlier, absent⟩

variable {environment : EffectEnvironment} {context : ContextEnvironment}
  {policy : IngressPolicy} {inboundEventId : Uuid} {request : IngressRequest}
  {event : Event} {effects : List IngressEffect}

theorem wp_confirmAccountDeletion {observedAt : Timestamp}
    (refuses : ∀ error, rules.refusal error store)
    (request : IngressRequest) (asked : .confirmAccountDeletion ∈ effects)
    (seen : ∀ older, rules.Earlier older store →
      (older (.conversationState accountId)).isSome = true) :
    rules.wp (confirmAccountDeletion environment context accountId observedAt)
      own store fun _ last _ =>
        Renews (own.view store (.conversationState accountId))
          (last.view store (.conversationState accountId)) := by
  let moves := EventMoves (some accountId) effects request
  unfold confirmAccountDeletion
  refine Discipline.wp_bind_rewrites moves refuses
    (rewrites_markDeleting asked) fun _ _ first => ?_
  refine Discipline.wp_bind_rewrites moves refuses
    Session.rewrites_query fun _ _ second => ?_
  refine Discipline.wp_bind_rewrites moves refuses
    (rewrites_requestDeletion asked) fun _ _ third => ?_
  refine Discipline.wp_bind_rewrites moves refuses
    rewrites_fetchOne fun _ _ fourth => ?_
  refine Discipline.wp_bind_rewrites moves refuses
    (rewrites_enqueueDelete asked) fun _ middle fifth => ?_
  have moved : EventMoved (some accountId) effects request (own.view store)
      (middle.view store) := fun key _ =>
    ((((first.trans second).trans third).trans fourth).trans fifth) key
  have begun : ConversationOrder
      (own.view store (.conversationState accountId))
      (middle.view store (.conversationState accountId)) := moved.conversation
  rw [Discipline.wp_monad_bind]
  refine wp_updateConversation refuses ?_ fun row present => ?_
  · rintro ⟨older, isEarlier, absent⟩ row present
    obtain ⟨next, isNext, _⟩ := begun row present
    have isThere := seen older isEarlier
    cases written : middle (.conversationState accountId) with
    | none => simp_all [Overlay.view]
    | some contents => simp_all [Overlay.view]
  · intro early isEarly
    obtain ⟨next, isNext, grows, _⟩ := begun early isEarly
    rw [present] at isNext
    cases isNext
    exact ⟨_, Overlay.set_view_self _ _ _ _, by
      simpa using grows.trans_lt (lt_add_one row.version)⟩

/-- The conversation of the account was there whenever it may have been
read. -/
def SeesConversation {Error : Type} (rules : Discipline BotRow Event Error)
    (accountId : Uuid) (store : BotStore) : Prop :=
  ∀ older, rules.Earlier older store →
    (older (.conversationState accountId)).isSome = true

theorem wp_trivially {Value : Type} {part : Statement Event Value}
    (refuses : ∀ error, rules.refusal error store)
    (rewrites : part.Rewrites (EventMoves (some accountId) effects request)) :
    rules.wp part own store fun _ _ _ => True :=
  Discipline.wp_mono (fun _ _ _ _ => trivial)
    (Discipline.wp_rewrites refuses rewrites)

theorem wp_silently {statement : Statement Event Unit}
    {post : Overlay BotRow → BotStore → Prop}
    (verified : rules.wp statement own store fun _ => post) :
    rules.wp (silently statement) own store fun _ => post := by
  unfold silently
  rw [Discipline.wp_monad_bind]
  exact verified

theorem wp_applyEffect_performs {effect : IngressEffect}
    (refuses : ∀ error, rules.refusal error store)
    (asked : effect ∈ effects) :
    rules.wp (applyEffect event environment context policy accountId
      inboundEventId request effect) own store fun _ last _ =>
        Performs (SeesConversation rules accountId store) accountId effect
          (own.view store) (last.view store) := by
  cases effect with
  | clearPendingAction version => exact wp_silently (wp_clearPending refuses)
  | confirmExpense expenseId version =>
      exact wp_silently (wp_settleExpense refuses)
  | rejectExpense expenseId version =>
      exact wp_silently (wp_settleExpense refuses)
  | confirmAccountDeletion =>
      by_cases seen : SeesConversation rules accountId store
      · exact Discipline.wp_mono (fun _ _ _ renews _ => renews)
          (wp_silently (wp_confirmAccountDeletion refuses request asked seen))
      · exact Discipline.wp_mono (fun _ _ _ _ sees => absurd sees seen)
          (wp_trivially refuses (applyEffect_rewrites asked))
  | grantConsent | createManualExpenseAwaitingConfirmation
  | acceptReceiptSubmission | confirmReceipt | rejectReceipt
  | editReceiptDraft | editManualExpense | recategorizeLatest | setLocale
  | setTimezone | upsertSummarySchedule | disableSummarySchedule
  | armAccountDeletion | requestAccountExport | recordInsightSnapshot =>
      exact wp_trivially refuses (applyEffect_rewrites asked)

/-- The effects of an event move rows as they may, and have been performed. -/
theorem wp_applyEffects {applied : List IngressEffect}
    (refuses : ∀ error, rules.refusal error store)
    (asked : ∀ effect ∈ applied, effect ∈ effects) :
    rules.wp (applyEffects event environment context policy accountId
      inboundEventId request applied) own store fun _ last final =>
        final = store ∧
        Moved (EventMoves (some accountId) effects request) (own.view store)
          (last.view store) ∧
        ∀ effect ∈ applied,
          Performs (SeesConversation rules accountId store) accountId effect
            (own.view store) (last.view store) := by
  induction applied generalizing own with
  | nil => exact ⟨rfl, .refl _, by simp⟩
  | cons effect rest ih =>
      have isAsked := asked effect List.mem_cons_self
      unfold applyEffects
      rw [Discipline.wp_monad_bind]
      refine Discipline.wp_mono ?_ (Discipline.wp_and
        (Discipline.wp_rewrites refuses (applyEffect_rewrites isAsked))
        (wp_applyEffect_performs refuses isAsked))
      rintro reply middle _ ⟨⟨rfl, moved⟩, performs⟩
      rw [Discipline.wp_monad_bind]
      refine Discipline.wp_mono ?_ (ih fun later member =>
        asked later (List.mem_cons_of_mem _ member))
      rintro later last _ ⟨rfl, movedLater, performsLater⟩
      refine ⟨rfl, moved.trans movedLater, fun other member => ?_⟩
      rcases List.mem_cons.mp member with rfl | within
      · exact performs.between (fun _ _ => .refl) fun key _ => movedLater key
      · exact (performsLater other within).between (fun key _ => moved key)
          fun _ _ => .refl

end Statements

end Ingress

end ZaloBot
