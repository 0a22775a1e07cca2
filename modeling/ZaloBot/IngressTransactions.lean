import ZaloBot.PerformedEffects

/-!
# Ingress transactions under any discipline

What every call of `process` publishes, whatever the discipline it is verified
against: what becomes of the rows of events, how the other rows are moved, and
what the decision behind the effects was made on.  A discipline that accepts
these facts is kept by all calls.
-/

namespace ZaloBot

open Sessions LabelledRuns TaskPool

/-- The rows of events stay, and those of accepted events do not change; the
accounts of senders stay. -/
structure EventsStay (before after : BotStore) : Prop where
  events : ∀ scope eventId row,
    before (.inboundEvent scope eventId) = some row →
    ∃ next, after (.inboundEvent scope eventId) = some next ∧
      next.id = row.id ∧ (row.processingState = .accepted → next = row)
  identities : ∀ scope senderId row,
    before (.providerIdentity scope senderId) = some row →
    after (.providerIdentity scope senderId) = some row

theorem EventsStay.refl (store : BotStore) : EventsStay store store where
  events _ _ row present := ⟨row, present, rfl, fun _ => rfl⟩
  identities _ _ _ present := present

theorem EventsStay.trans {first middle last : BotStore}
    (begun : EventsStay first middle) (ended : EventsStay middle last) :
    EventsStay first last where
  events scope eventId row present := by
    obtain ⟨next, found, sameId, stays⟩ := begun.events scope eventId row
      present
    obtain ⟨final, foundFinal, finalId, staysFinal⟩ :=
      ended.events scope eventId next found
    refine ⟨final, foundFinal, finalId.trans sameId, fun accepted => ?_⟩
    have same := stays accepted
    subst same
    exact staysFinal accepted
  identities scope senderId row present :=
    ended.identities scope senderId row
      (begun.identities scope senderId row present)

theorem EventsStay.of_same {before after : BotStore}
    (same : ∀ key, key.isEventRow = true → key ≠ .ingressControl →
      after key = before key) : EventsStay before after where
  events scope eventId row present :=
    ⟨row, (same _ rfl (by simp)).trans present, rfl, fun _ => rfl⟩
  identities scope senderId row present :=
    (same _ rfl (by simp)).trans present

/-- What the call that processes an event publishes, with the account of its
sender. -/
structure ProcessesEvent (request : IngressRequest) (accountId : Option Uuid)
    (before after : BotStore) : Prop where
  mode : ∃ control, before .ingressControl = some control ∧
    control.mode = request.source
  control : after .ingressControl = before .ingressControl
  event : ∃ row, after (.inboundEvent request.providerScope
      request.providerEventId) = some row ∧
    row.processingState = .accepted ∧ row.ingressSource = request.source ∧
    ∀ old, before (.inboundEvent request.providerScope
      request.providerEventId) = some old →
      old.processingState = .rejected ∧ row.id = old.id
  others : ∀ scope eventId,
    ¬ (scope = request.providerScope ∧ eventId = request.providerEventId) →
    after (.inboundEvent scope eventId) = before (.inboundEvent scope eventId)
  identities : ∀ scope senderId row,
    before (.providerIdentity scope senderId) = some row →
    after (.providerIdentity scope senderId) = some row
  account : ∀ id ∈ accountId, ∃ row, after (.providerIdentity
    request.providerScope request.providerSenderId) = some row ∧
      row.accountId = id

/-- What a call under another mode publishes. -/
structure RejectsEvent (request : IngressRequest) (before after : BotStore) :
    Prop where
  mode : ∃ control, before .ingressControl = some control ∧
    control.mode ≠ request.source
  absent : before (.inboundEvent request.providerScope
    request.providerEventId) = none
  event : ∃ row : InboundEventRow, row.processingState = .rejected ∧
    row.ingressSource = request.source ∧
    after = Function.update before (.inboundEvent request.providerScope
      request.providerEventId) (some row)

theorem ProcessesEvent.stays {request : IngressRequest}
    {accountId : Option Uuid} {before after : BotStore}
    (processes : ProcessesEvent request accountId before after) :
    EventsStay before after where
  events scope eventId row present := by
    by_cases same : scope = request.providerScope ∧
        eventId = request.providerEventId
    · obtain ⟨rfl, rfl⟩ := same
      obtain ⟨next, found, _, _, promoted⟩ := processes.event
      obtain ⟨rejected, sameId⟩ := promoted row present
      refine ⟨next, found, sameId, fun accepted => ?_⟩
      rw [rejected] at accepted
      contradiction
    · exact ⟨row, (processes.others scope eventId same).trans present, rfl,
        fun _ => rfl⟩
  identities := processes.identities

/-- Only the rows of events matter. -/
theorem ProcessesEvent.congr {request : IngressRequest}
    {accountId : Option Uuid} {before after other : BotStore}
    (processes : ProcessesEvent request accountId before after)
    (same : ∀ key, key.isEventRow = true → other key = after key) :
    ProcessesEvent request accountId before other where
  mode := processes.mode
  control := (same _ rfl).trans processes.control
  event := by
    rw [same _ rfl]
    exact processes.event
  others scope eventId different :=
    (same _ rfl).trans (processes.others scope eventId different)
  identities scope senderId row present :=
    (same _ rfl).trans (processes.identities scope senderId row present)
  account := by
    rw [same _ rfl]
    exact processes.account

theorem RejectsEvent.stays {request : IngressRequest}
    {before after : BotStore} (rejects : RejectsEvent request before after) :
    EventsStay before after := by
  obtain ⟨row, _, _, rfl⟩ := rejects.event
  refine ⟨fun scope eventId old present => ?_,
    fun scope senderId old present => ?_⟩
  · have different : (BotKey.inboundEvent scope eventId) ≠
        .inboundEvent request.providerScope request.providerEventId := by
      intro same
      obtain ⟨rfl, rfl⟩ := BotKey.inboundEvent.inj same
      rw [rejects.absent] at present
      contradiction
    exact ⟨old, (Function.update_of_ne different _ _).trans present, rfl,
      fun _ => rfl⟩
  · exact (Function.update_of_ne (by simp) _ _).trans present

/-- Nothing but the rows of events changes. -/
theorem RejectsEvent.same_of_other {request : IngressRequest}
    {before after : BotStore} (rejects : RejectsEvent request before after)
    {key : BotKey} (isOther : key.isEventRow = false) :
    after key = before key := by
  obtain ⟨row, _, _, rfl⟩ := rejects.event
  refine Function.update_of_ne ?_ _ _
  rintro rfl
  simp [BotKey.isEventRow] at isOther

/-- What each call publishes. -/
def PublishesEvent (before : BotStore) (event : IngressEvent)
    (after : BotStore) : Prop :=
  match event with
  | .duplicate request =>
      after = before ∧ (before (.inboundEvent request.providerScope
        request.providerEventId)).isSome
  | .modeRejected request => RejectsEvent request before after
  | .processed request accountId _ =>
      ProcessesEvent request accountId before after
  | .switched => ∀ key, key ≠ .ingressControl → after key = before key
  | .reviewFollowup _ _ _ => False
  | .failureFollowup => False

theorem PublishesEvent.stays {before after : BotStore} {event : IngressEvent}
    (publishes : PublishesEvent before event after) :
    EventsStay before after := by
  cases event with
  | duplicate request =>
      rw [publishes.1]
      exact .refl before
  | modeRejected request => exact RejectsEvent.stays publishes
  | processed request accountId effects =>
      exact ProcessesEvent.stays publishes
  | switched => exact .of_same fun key _ => publishes key
  | reviewFollowup accountId submissionId now => exact publishes.elim
  | failureFollowup => exact publishes.elim

/-- What is not the processing of an event changes only rows of events. -/
theorem PublishesEvent.same_of_other {before after : BotStore}
    {event : IngressEvent} (publishes : PublishesEvent before event after)
    {key : BotKey} (isOther : key.isEventRow = false)
    (other : ∀ request accountId effects,
      event ≠ .processed request accountId effects) :
    after key = before key := by
  cases event with
  | duplicate request => rw [publishes.1]
  | modeRejected request => exact RejectsEvent.same_of_other publishes isOther
  | processed request accountId effects =>
      exact absurd rfl (other request accountId effects)
  | switched =>
      refine publishes key ?_
      rintro rfl
      simp [BotKey.isEventRow] at isOther
  | reviewFollowup accountId submissionId now => exact publishes.elim
  | failureFollowup => exact publishes.elim

namespace Ingress

/-- Where the pending action of a context was read. -/
structure PendingFrom (earlier : BotStore → Prop) (accountId : Uuid)
    (pending : PendingAction) : Prop where
  stored : ∃ older row, earlier older ∧
    older (.conversationState accountId) = some row ∧
    row.version = pending.version ∧ row.pending =
      some ⟨pending.actionType, pending.payloadRef, pending.expiresAt⟩
  expense : ∀ expense ∈ pending.expense,
    pending.actionType = .manualExpenseConfirmation ∧
      pending.payloadRef = some expense.id
  receiptDraft : ∀ draft ∈ pending.receiptDraft,
    pending.actionType = .receiptReview ∧
      pending.payloadRef = some draft.submissionId

/-- What a decision is made on. -/
structure ContextFrom (earlier : BotStore → Prop) (request : IngressRequest)
    (accountId : Option Uuid) (context : DecisionContext) : Prop where
  account : context.accountId = accountId
  text : context.userText = request.userText
  now : context.now = request.observedAt
  lifecycle : ∀ id ∈ accountId, ∃ row : AccountRow,
    context.lifecycleState = some row.lifecycleState ∧
      (row = newAccount ∨
        ∃ older, earlier older ∧ older (.account id) = some row)
  pending : ∀ pending ∈ context.pendingAction, ∃ id,
    accountId = some id ∧ PendingFrom earlier id pending

section Reading

variable {Event Error : Type}
  {rules : Discipline BotRow Event IngressEffectError}
  {environment : ContextEnvironment} {policy : IngressPolicy}
  {request : IngressRequest} {own : Overlay BotRow} {store : BotStore}
  {accountId inboundEventId : Uuid}

theorem wp_fetchOne {Value : Type} {error : IngressEffectError}
    {ask : BotStore → Option Value}
    {post : Value → Overlay BotRow → BotStore → Prop}
    (refuses : ∀ error, rules.refusal error store)
    (answered : ∀ older value, rules.Earlier older store →
      ask (own.view older) = some value → post value own store) :
    rules.wp (fetchOne error ask) own store post := by
  unfold fetchOne
  rw [Discipline.wp_monad_bind]
  refine Discipline.wp_query (refuses _) fun older earlier => ?_
  cases found : ask (own.view older) with
  | none => exact refuses _
  | some value => exact answered older value earlier found

theorem wp_loadInteractiveTotals {frequency : Frequency}
    {observedAt : Timestamp} {timezone fallbackCurrency : String}
    {post : SpendingTotals.PeriodTotals → Overlay BotRow → BotStore → Prop}
    (refuses : ∀ error, rules.refusal error store)
    (answered : ∀ totals, post totals own store) :
    rules.wp (loadInteractiveTotals environment accountId frequency observedAt
      timezone fallbackCurrency) own store post := by
  unfold loadInteractiveTotals
  split
  · exact refuses _
  · exact wp_fetchOne refuses fun _ totals _ _ => answered totals

theorem wp_loadPendingExpense {expenseId : Uuid}
    {recent : List RecentExpense}
    {post : Option RecentExpense → Overlay BotRow → BotStore → Prop}
    (refuses : ∀ error, rules.refusal error store)
    (answered : ∀ expense : Option RecentExpense,
      (∀ found ∈ expense, found.id = expenseId) → post expense own store) :
    rules.wp (loadPendingExpense accountId expenseId recent) own store
      post := by
  unfold loadPendingExpense
  split
  · rename_i expense found
    refine answered (some expense) fun other isOther => ?_
    cases isOther
    simpa using List.find?_some found
  · refine Discipline.wp_query (refuses _) fun older _ => ?_
    refine answered _ fun other isOther => ?_
    obtain ⟨row, _, rfl⟩ := Option.map_eq_some_iff.mp isOther
    rfl

theorem wp_loadReceiptDraftSnapshot {submissionId : Uuid}
    {post : Option ReceiptDraftSnapshot → Overlay BotRow → BotStore → Prop}
    (refuses : ∀ error, rules.refusal error store)
    (answered : ∀ draft : Option ReceiptDraftSnapshot,
      (∀ found ∈ draft, found.submissionId = submissionId) →
        post draft own store) :
    rules.wp (loadReceiptDraftSnapshot environment accountId submissionId)
      own store post := by
  unfold loadReceiptDraftSnapshot
  rw [Discipline.wp_monad_bind]
  refine wp_fetchOne refuses fun _ locale _ _ => ?_
  dsimp only
  refine Discipline.wp_query (refuses _) fun older _ => ?_
  refine answered _ fun found isFound => ?_
  simp only [Option.mem_def, Option.bind_eq_bind, Option.bind_eq_some_iff]
    at isFound
  obtain ⟨draft, _, submission, _, isFound⟩ := isFound
  split at isFound
  · cases isFound
    rfl
  · contradiction

/-- The pending action is the one of the conversation that was read. -/
theorem wp_loadPendingAction {earlier : BotStore → Prop}
    {recent : List RecentExpense} {row : Option ConversationRow}
    {post : Option PendingAction → Overlay BotRow → BotStore → Prop}
    (refuses : ∀ error, rules.refusal error store)
    (stored : ∃ older, earlier older ∧
      older (.conversationState accountId) = row)
    (answered : ∀ pending : Option PendingAction,
      (∀ found ∈ pending, PendingFrom earlier accountId found) →
        post pending own store) :
    rules.wp (loadPendingAction environment accountId recent row) own store
      post := by
  obtain ⟨older, isEarlier, present⟩ := stored
  unfold loadPendingAction
  split
  · exact answered none (by simp)
  rename_i row
  split
  · exact answered none (by simp)
  rename_i columns isPending
  dsimp only
  split
  · rename_i isManual isExpense
    rw [Discipline.wp_monad_bind]
    refine wp_loadPendingExpense refuses fun expense sameId => ?_
    refine answered _ fun found isFound => ?_
    cases isFound
    refine ⟨⟨older, row, isEarlier, present, rfl, isPending⟩,
      fun other isOther => ⟨isManual, ?_⟩, by rintro _ ⟨⟩⟩
    rw [sameId other isOther]
    exact isExpense
  · rename_i isReview isSubmission
    rw [Discipline.wp_monad_bind]
    refine wp_loadReceiptDraftSnapshot refuses fun draft sameId => ?_
    refine answered _ fun found isFound => ?_
    cases isFound
    refine ⟨⟨older, row, isEarlier, present, rfl, isPending⟩, by rintro _ ⟨⟩,
      fun other isOther => ⟨isReview, ?_⟩⟩
    rw [sameId other isOther]
    exact isSubmission
  · refine answered _ fun found isFound => ?_
    cases isFound
    exact ⟨⟨older, row, isEarlier, present, rfl, isPending⟩,
      by rintro _ ⟨⟩, by rintro _ ⟨⟩⟩

/-- A context is read from earlier stores, through the account that the
transaction may have opened. -/
theorem wp_loadDecisionContext
    {post : DecisionContext → Overlay BotRow → BotStore → Prop}
    (refuses : ∀ error, rules.refusal error store)
    (conversation : own (.conversationState accountId) = none)
    (account : ∀ view row, own.view view (.account accountId) = some row →
      row = newAccount ∨ view (.account accountId) = some row)
    (answered : ∀ context, ContextFrom (fun older =>
      rules.Earlier older store) request (some accountId) context →
        post context own store) :
    rules.wp (loadDecisionContext environment policy accountId inboundEventId
      request) own store post := by
  unfold loadDecisionContext
  rw [Discipline.wp_monad_bind]
  refine wp_fetchOne refuses fun opened row isEarlier isRow => ?_
  rw [Discipline.wp_monad_bind]
  refine Discipline.wp_query (refuses _) fun older olderEarlier => ?_
  rw [Discipline.wp_monad_bind]
  refine wp_fetchOne refuses fun _ preferences _ _ => ?_
  rw [Discipline.wp_monad_bind]
  refine wp_fetchOne refuses fun _ today _ _ => ?_
  rw [Discipline.wp_monad_bind]
  refine wp_loadInteractiveTotals refuses fun week => ?_
  rw [Discipline.wp_monad_bind]
  refine wp_loadInteractiveTotals refuses fun month => ?_
  rw [Discipline.wp_monad_bind]
  refine Discipline.wp_query (refuses _) fun _ _ => ?_
  rw [Discipline.wp_monad_bind]
  refine Discipline.wp_query (refuses _) fun _ _ => ?_
  rw [Discipline.wp_monad_bind]
  refine Discipline.wp_query (refuses _) fun _ _ => ?_
  rw [Discipline.wp_monad_bind]
  refine Discipline.wp_query (refuses _) fun _ _ => ?_
  rw [Discipline.wp_monad_bind]
  have stored : ∃ view, (fun view => rules.Earlier view store) view ∧
      view (.conversationState accountId) =
        own.view older (.conversationState accountId) :=
    ⟨older, olderEarlier, by simp [Overlay.view, conversation]⟩
  refine wp_loadPendingAction refuses stored
    fun pending isFrom => ?_
  refine answered _ ⟨rfl, rfl, rfl, fun id isId => ?_,
    fun found isFound => ⟨accountId, rfl, isFrom found isFound⟩⟩
  cases isId
  refine ⟨row, rfl, (account opened row isRow).imp id fun present =>
    ⟨opened, isEarlier, present⟩⟩

end Reading

/-- The effects of an event have been performed on the rows of its account. -/
def PerformsAll {Event Error : Type} (rules : Discipline BotRow Event Error)
    (accountId : Option Uuid) (effects : List IngressEffect)
    (before after : BotStore) : Prop :=
  ∀ id, accountId = some id → ∀ effect ∈ effects,
    Performs (SeesConversation rules id before) id effect before after

/-- What a discipline accepts of the calls for an event. -/
structure AcceptsCall {Error : Type}
    (rules : Discipline BotRow IngressEvent Error) (request : IngressRequest)
    (decide : DecisionContext → Except IngressEffectError DecisionOutput) :
    Prop where
  refuses : ∀ error store, rules.refusal error store
  stays : ∀ {before after : BotStore}, rules.advances before after →
    EventsStay before after
  duplicate : ∀ {store : BotStore}, rules.invariant store →
    (store (.inboundEvent request.providerScope
      request.providerEventId)).isSome = true →
    rules.guarantee store (.duplicate request) store
  rejected : ∀ {store after : BotStore}, rules.invariant store →
    RejectsEvent request store after →
    rules.guarantee store (.modeRejected request) after
  processed : ∀ {store after : BotStore} {accountId context decision},
    rules.invariant store →
    ContextFrom (fun older => rules.Earlier older store) request accountId
      context →
    decide context = .ok decision →
    ProcessesEvent request accountId store after →
    EventMoved accountId decision.effects request store after →
    PerformsAll rules accountId decision.effects store after →
    rules.guarantee store (.processed request accountId decision.effects)
      after

section Processing

variable {rules : Discipline BotRow IngressEvent IngressError}
  {environment : ProcessEnvironment} {request : IngressRequest}
  {observation : IngressObservation} {inboundEventId : Uuid}
  {decide : DecisionContext → Except IngressEffectError DecisionOutput}
  {own : Overlay BotRow} {store : BotStore} {accountId : Option Uuid}

theorem processes_view {last : Overlay BotRow}
    (processes : ProcessesEvent request accountId store (own.view store))
    (same : ∀ key, key.isEventRow = true → last.view store key =
      own.view store key) :
    ProcessesEvent request accountId store (last.view store) :=
  processes.congr same

theorem wp_lockMode
    {post : IngressSource → Overlay BotRow → BotStore → Prop}
    (accepts : AcceptsCall rules request decide)
    (locked : ∀ control, store .ingressControl = some control →
      post control.mode Overlay.none store) :
    rules.wp lockMode Overlay.none store post := by
  refine ⟨fun hit => ?_, fun older _ miss => ?_, accepts.refuses _ _⟩
  · obtain ⟨control, present⟩ := Option.isSome_iff_exists.mp hit
    rw [present]
    exact locked control present
  · have absent : Overlay.none.view older .ingressControl = none := by
      simpa using miss
    rw [absent]
    exact accepts.refuses _ _

/-- The row of an event that is not inserted is there. -/
theorem wp_loadDuplicate
    {post : IngressOutcome → Overlay BotRow → BotStore → Prop}
    (accepts : AcceptsCall rules request decide)
    (seen : ∀ id, (store (.inboundEvent request.providerScope
      request.providerEventId)).isSome →
        post (.duplicate id) Overlay.none store) :
    rules.wp (observed request none) Overlay.none store post := by
  unfold observed
  rw [Discipline.wp_monad_bind]
  refine Discipline.wp_query (accepts.refuses _ _) fun older earlier => ?_
  rw [Overlay.none_view]
  cases present : older (.inboundEvent request.providerScope
      request.providerEventId) with
  | none => exact accepts.refuses _ _
  | some row =>
      obtain ⟨next, found, _⟩ :=
        (accepts.stays earlier.advances).events _ _ row present
      exact seen row.id (by simp [found])

theorem wp_observeAccepted
    {post : IngressOutcome → Overlay BotRow → BotStore → Prop}
    (accepts : AcceptsCall rules request decide)
    (inserted : ∀ row : InboundEventRow, row.processingState = .accepted →
      row.ingressSource = request.source →
      (∀ old, store (.inboundEvent request.providerScope
        request.providerEventId) = some old →
          old.processingState = .rejected ∧ row.id = old.id) →
      post (.accepted row.id) (Overlay.none.set (.inboundEvent
        request.providerScope request.providerEventId) (some row)) store)
    (seen : ∀ id, (store (.inboundEvent request.providerScope
      request.providerEventId)).isSome →
        post (.duplicate id) Overlay.none store) :
    rules.wp (insertObservedEvent environment request observation .accepted)
      Overlay.none store post := by
  rw [insertObservedEvent_accepted, Discipline.wp_monad_bind]
  refine ⟨fun _ => ?_, fun _ _ miss => by simp at miss,
    accepts.refuses _ _⟩
  rw [Overlay.none_view]
  cases present : store (.inboundEvent request.providerScope
      request.providerEventId) with
  | none =>
      refine inserted (observedRow environment request observation .accepted)
        rfl rfl fun old isOld => ?_
      rw [present] at isOld
      contradiction
  | some row =>
      dsimp only
      split
      · rename_i rejected
        refine inserted { observedRow environment request observation
          .accepted with id := row.id } rfl rfl fun old isOld => ?_
        rw [present] at isOld
        cases isOld
        exact ⟨rejected, rfl⟩
      · exact wp_loadDuplicate accepts seen

theorem wp_observeRejected
    {post : IngressOutcome → Overlay BotRow → BotStore → Prop}
    (accepts : AcceptsCall rules request decide)
    (inserted : store (.inboundEvent request.providerScope
        request.providerEventId) = none →
      post (.accepted environment.eventId) (Overlay.none.set (.inboundEvent
        request.providerScope request.providerEventId)
        (some (observedRow environment request observation .rejected))) store)
    (seen : ∀ id, (store (.inboundEvent request.providerScope
      request.providerEventId)).isSome →
        post (.duplicate id) Overlay.none store) :
    rules.wp (insertObservedEvent environment request observation .rejected)
      Overlay.none store post := by
  rw [insertObservedEvent_rejected, Discipline.wp_monad_bind]
  unfold insertRejected
  rw [Discipline.wp_monad_bind]
  refine Discipline.wp_insertRow (accepts.refuses _ _)
    (fun _ _ _ _ => ?_) inserted
  exact wp_loadDuplicate accepts seen

theorem wp_commitDuplicate (accepts : AcceptsCall rules request decide)
    (holds : rules.invariant store)
    (seen : (store (.inboundEvent request.providerScope
      request.providerEventId)).isSome) :
    rules.wp (commitDuplicate request inboundEventId) Overlay.none store
      fun _ _ _ => True := by
  unfold commitDuplicate
  rw [Discipline.wp_monad_bind]
  exact Discipline.wp_commitTransaction (fun _ => accepts.refuses _ _)
    fun _ => ⟨accepts.duplicate holds seen, fun _ _ => trivial⟩

/-- The sender gets an account that is new. -/
theorem processes_created {accountRow : AccountRow} {identityId newId : Uuid}
    (processes : ProcessesEvent request none store (own.view store))
    (free : store (.providerIdentity request.providerScope
      request.providerSenderId) = none) :
    ProcessesEvent request (some newId) store
      (((own.set (.account newId) (some accountRow)).set
        (.providerIdentity request.providerScope request.providerSenderId)
        (some ⟨identityId, newId⟩)).view store) where
  mode := processes.mode
  control := by
    rw [Overlay.set_view_other (by simp), Overlay.set_view_other (by simp)]
    exact processes.control
  event := by
    rw [Overlay.set_view_other (by simp), Overlay.set_view_other (by simp)]
    exact processes.event
  others scope eventId different := by
    rw [Overlay.set_view_other (by simp), Overlay.set_view_other (by simp)]
    exact processes.others scope eventId different
  identities scope senderId row present := by
    have different : (BotKey.providerIdentity scope senderId) ≠
        .providerIdentity request.providerScope request.providerSenderId := by
      intro same
      obtain ⟨rfl, rfl⟩ := BotKey.providerIdentity.inj same
      rw [free] at present
      contradiction
    rw [Overlay.set_view_other different, Overlay.set_view_other (by simp)]
    exact processes.identities scope senderId row present
  account id isId := by
    cases isId
    exact ⟨_, Overlay.set_view_self _ _ _ _, rfl⟩

/-- The row of a processed event is finished. -/
theorem processes_finished {row : InboundEventRow} {processedAt : Timestamp}
    (processes : ProcessesEvent request accountId store (own.view store))
    (present : own.view store (.inboundEvent request.providerScope
      request.providerEventId) = some row) :
    ProcessesEvent request accountId store
      ((own.set (.inboundEvent request.providerScope request.providerEventId)
        (some { row with
          accountId := accountId
          processedAt := some processedAt })).view store) where
  mode := processes.mode
  control := by
    rw [Overlay.set_view_other (by simp)]
    exact processes.control
  event := by
    obtain ⟨stored, found, accepted, source, promoted⟩ := processes.event
    rw [present] at found
    cases found
    exact ⟨_, Overlay.set_view_self _ _ _ _, accepted, source, promoted⟩
  others scope eventId different := by
    rw [Overlay.set_view_other (by simpa using different)]
    exact processes.others scope eventId different
  identities scope senderId identity isIdentity := by
    rw [Overlay.set_view_other (by simp)]
    exact processes.identities scope senderId identity isIdentity
  account := by
    rw [Overlay.set_view_other (by simp)]
    exact processes.account

/-- What a transaction has done before its decision. -/
structure Opened (request : IngressRequest) (accountId : Option Uuid)
    (own : Overlay BotRow) (store : BotStore) : Prop where
  processes : ProcessesEvent request accountId store (own.view store)
  moved : ∀ effects,
    EventMoved accountId effects request store (own.view store)
  conversation : ∀ id, own (.conversationState id) = none
  account : ∀ id view row, own.view view (.account id) = some row →
    row = newAccount ∨ view (.account id) = some row

/-- Only the row of the event has been written. -/
theorem opened_of_event
    (processes : ProcessesEvent request accountId store (own.view store))
    (kept : ∀ key, key.isEventRow = false → own key = none) :
    Opened request accountId own store where
  processes := processes
  moved effects key isOther := by
    have same : own.view store key = store key := by
      simp [Overlay.view, kept key isOther]
    rw [same]
  conversation id := kept _ rfl
  account id view row present := by
    rw [Overlay.view, kept _ rfl] at present
    exact .inr present

/-- The account of a new sender. -/
theorem opened_of_created {identityId newId : Uuid}
    (processes : ProcessesEvent request none store (own.view store))
    (kept : ∀ key, key.isEventRow = false → own key = none)
    (free : own.view store (.account newId) = none)
    (unlinked : store (.providerIdentity request.providerScope
      request.providerSenderId) = none) :
    Opened request (some newId)
      ((own.set (.account newId) (some newAccount)).set
        (.providerIdentity request.providerScope request.providerSenderId)
        (some ⟨identityId, newId⟩)) store where
  processes := processes_created processes unlinked
  moved effects key isOther := by
    have notIdentity : key ≠ .providerIdentity request.providerScope
        request.providerSenderId := by
      rintro rfl
      simp [BotKey.isEventRow] at isOther
    have same : own.view store key = store key := by
      simp [Overlay.view, kept key isOther]
    rw [Overlay.set_view_other notIdentity]
    by_cases isAccount : key = .account newId
    · subst isAccount
      rw [Overlay.set_view_self, ← same, free]
      exact .single ⟨rfl, .opened⟩
    · rw [Overlay.set_view_other isAccount, same]
  conversation id := by
    simpa [Overlay.set] using kept (.conversationState id) rfl
  account id view row present := by
    rw [Overlay.set_view_other (by simp)] at present
    by_cases same : id = newId
    · subst same
      rw [Overlay.set_view_self] at present
      exact .inl (Option.some.inj present).symm
    · rw [Overlay.set_view_other (by simpa using same), Overlay.view,
        kept _ rfl] at present
      exact .inr present

/-- The account of the sender is found or created. -/
theorem wp_senderAccount
    {post : Option Uuid → Overlay BotRow → BotStore → Prop}
    (accepts : AcceptsCall rules request decide)
    (processes : ProcessesEvent request none store (own.view store))
    (kept : ∀ key, key.isEventRow = false → own key = none)
    (unwritten : ∀ scope senderId,
      own (.providerIdentity scope senderId) = none)
    (resolved : ∀ accountId last, Opened request accountId last store →
      post accountId last store) :
    rules.wp (senderAccount environment request) own store post := by
  unfold senderAccount
  split
  swap
  · exact resolved none own (opened_of_event processes kept)
  have identity (view : BotStore) :
      own.view view (.providerIdentity request.providerScope
        request.providerSenderId) =
      view (.providerIdentity request.providerScope
        request.providerSenderId) := by
    simp [Overlay.view, unwritten]
  unfold reported resolveOrCreateAccount
  rw [Discipline.wp_monad_bind, Discipline.wp_mapError,
    Discipline.wp_monad_bind]
  refine Discipline.wp_query (accepts.refuses _ _) fun older earlier => ?_
  rw [identity older]
  cases found : older (.providerIdentity request.providerScope
      request.providerSenderId) with
  | some row =>
      refine resolved (some row.accountId) own (opened_of_event
        { processes with account := fun id isId => ?_ } kept)
      cases isId
      refine ⟨row, ?_, rfl⟩
      rw [identity store]
      exact (accepts.stays (Discipline.earlier_withRefusal.mp
        earlier).advances).identities _ _ row found
  | none =>
      dsimp only [Option.map_none]
      rw [Discipline.wp_monad_bind]
      refine Discipline.wp_insertRow (accepts.refuses _ _)
        (fun _ _ _ _ => accepts.refuses _ _) fun free => ?_
      rw [Discipline.wp_monad_bind]
      refine (Discipline.wp_pure ..).mpr ?_
      rw [Discipline.wp_monad_bind]
      refine Discipline.wp_insertRow (accepts.refuses _ _)
        (fun _ _ _ _ => accepts.refuses _ _) fun unlinked => ?_
      rw [Discipline.wp_monad_bind]
      rw [Overlay.set_view_other (by simp), identity store] at unlinked
      exact resolved (some environment.newAccountId) _
        (opened_of_created processes kept free unlinked)

/-- The context is read from earlier stores. -/
theorem wp_decisionContext
    {post : DecisionContext → Overlay BotRow → BotStore → Prop}
    (accepts : AcceptsCall rules request decide)
    (opened : Opened request accountId own store)
    (answered : ∀ context, ContextFrom (fun older =>
      rules.Earlier older store) request accountId context →
        post context own store) :
    rules.wp (decisionContext environment request accountId inboundEventId)
      own store post := by
  cases accountId with
  | none =>
      exact answered _ ⟨rfl, rfl, rfl, by simp, by simp [strangerContext]⟩
  | some accountId =>
      unfold decisionContext reported
      dsimp only
      rw [Discipline.wp_mapError]
      refine wp_loadDecisionContext (fun _ => accepts.refuses _ _)
        (opened.conversation accountId) (opened.account accountId)
        fun context isFrom => ?_
      simp only [Discipline.earlier_withRefusal] at isFrom
      exact answered context isFrom

/-- The effects of a decision move rows as they may, and are performed. -/
theorem wp_applyDecision {effects : List IngressEffect}
    (refuses : ∀ error, rules.refusal error store) :
    rules.wp (applyDecision environment request accountId inboundEventId
      effects) own store fun _ last final =>
        final = store ∧
        Moved (EventMoves accountId effects request) (own.view store)
          (last.view store) ∧
        ∀ id, accountId = some id → ∀ effect ∈ effects,
          Performs (SeesConversation rules id store) id effect
            (own.view store) (last.view store) := by
  cases accountId with
  | none =>
      unfold applyDecision
      dsimp only
      split
      · exact ⟨rfl, .refl _, by simp⟩
      · exact refuses _
  | some accountId =>
      unfold applyDecision
      dsimp only
      unfold reported
      rw [Discipline.wp_mapError]
      refine Discipline.wp_mono ?_ (wp_applyEffects (fun _ => refuses _)
        fun _ member => member)
      rintro _ last _ ⟨rfl, moved, performs⟩
      refine ⟨rfl, moved, fun id isAccount effect member => ?_⟩
      cases isAccount
      simpa only [SeesConversation, Discipline.earlier_withRefusal] using
        performs effect member

/-- The reply of an event is a new message under the key of the event. -/
theorem rewrites_reply {effects : List IngressEffect}
    {body : Option String} :
    (reply environment request accountId body).Rewrites
      (EventMoves accountId effects request) := by
  cases body with
  | none => exact Session.rewrites_pure
  | some body =>
      refine Session.Rewrites.mapError (Session.Rewrites.mapError
        (.bind ?_ fun deliver => ?_))
      · unfold Followups.outboundDeliveryAllowed
        split
        · split
          · exact .bind (rewrites_increment fun old =>
              ⟨⟨_, rfl, rfl, rfl⟩, .counted old _⟩)
                fun _ => Session.rewrites_pure
          · exact Session.rewrites_pure
        · exact Session.rewrites_pure
      · unfold Followups.enqueueDecided
        split
        case isFalse => exact Session.rewrites_fail
        refine .bind (Session.rewrites_insertRow ⟨rfl, .sent _ rfl rfl ?_
          rfl⟩) fun _ => ?_
        · cases deliver <;> simp
        refine .bind Session.rewrites_query fun outboundId => ?_
        split
        · exact Session.rewrites_fail
        split
        · exact .bind (rewrites_enqueue fun version => .queued _ version _
            fun _ isJob => isJob.eq_of_outbound) fun _ => Session.rewrites_pure
        · exact Session.rewrites_pure

/-- An event that was inserted or promoted is processed. -/
theorem wp_processAccepted (accepts : AcceptsCall rules request decide)
    (holds : rules.invariant store)
    (processes : ProcessesEvent request none store (own.view store))
    (kept : ∀ key, key.isEventRow = false → own key = none)
    (unwritten : ∀ scope senderId,
      own (.providerIdentity scope senderId) = none) :
    rules.wp (processAccepted environment request decide inboundEventId) own
      store fun _ _ _ => True := by
  unfold processAccepted
  rw [Discipline.wp_monad_bind]
  refine wp_senderAccount accepts processes kept unwritten
    fun accountId last opened => ?_
  rw [Discipline.wp_monad_bind]
  refine wp_decisionContext accepts opened fun context isFrom => ?_
  cases decided : decide context with
  | error error => exact accepts.refuses _ _
  | ok decision =>
      dsimp only
      rw [Discipline.wp_monad_bind]
      refine Discipline.wp_mono ?_
        (wp_applyDecision fun _ => accepts.refuses _ _)
      rintro override applied store ⟨rfl, movedByEffects, performed⟩
      have afterEffects := processes_view opened.processes
        fun _ => event_eq_of_moved movedByEffects
      rw [Discipline.wp_monad_bind]
      refine Discipline.wp_mono ?_ (Discipline.wp_rewrites
        (fun _ => accepts.refuses _ _)
        (rewrites_reply : (reply environment request accountId
          (override.or decision.reply)).Rewrites
            (EventMoves accountId decision.effects request)))
      rintro _ replied store ⟨rfl, movedByReply⟩
      have afterReply := processes_view afterEffects
        fun _ => event_eq_of_moved movedByReply
      rw [Discipline.wp_monad_bind]
      have commits (final : Overlay BotRow)
          (finished : ProcessesEvent request accountId store
            (final.view store))
          (same : ∀ key, key.isEventRow = false →
            final.view store key = replied.view store key) :
          rules.wp (do
            Session.commitTransaction
              ⟨"failed to commit ingress transaction"⟩
              (IngressEvent.processed request accountId decision.effects)
            pure (IngressOutcome.accepted inboundEventId)) final store
            fun _ _ _ => True := by
        have ends : EventMoved accountId decision.effects request
            (applied.view store) (final.view store) := fun key isOther => by
          rw [same key isOther]
          exact movedByReply key
        rw [Discipline.wp_monad_bind]
        refine Discipline.wp_commitTransaction (fun _ => accepts.refuses _ _)
          fun _ => ⟨accepts.processed holds isFrom decided finished
            (fun key isOther => ((opened.moved decision.effects key
              isOther).trans (movedByEffects key)).trans (ends key isOther))
            (fun id isAccount effect member =>
              (performed id isAccount effect member).between
                (opened.moved decision.effects) ends),
            fun _ _ => trivial⟩
      refine Discipline.wp_updateRow (accepts.refuses _ _)
        (commits replied afterReply fun _ _ => rfl) fun row present _ =>
          commits _ (processes_finished afterReply present)
            fun key isOther => ?_
      have different : key ≠ .inboundEvent request.providerScope
          request.providerEventId := by
        rintro rfl
        simp [BotKey.isEventRow] at isOther
      rw [Overlay.set_view_other different]

theorem wp_process (accepts : AcceptsCall rules request decide)
    (holds : rules.invariant store) :
    rules.wp (process environment request observation decide) Overlay.none
      store fun _ _ _ => True := by
  unfold process
  rw [Discipline.wp_monad_bind]
  refine wp_lockMode accepts fun control isControl => ?_
  split
  · rename_i otherMode
    rw [Discipline.wp_monad_bind]
    refine wp_observeRejected accepts (fun absent => ?_) fun id seen =>
      wp_commitDuplicate accepts holds seen
    dsimp only
    rw [Discipline.wp_monad_bind]
    refine Discipline.wp_commitTransaction (fun _ => accepts.refuses _ _)
      fun _ => ⟨accepts.rejected holds ⟨⟨control, isControl, otherMode⟩,
        absent, observedRow environment request observation .rejected, rfl,
        rfl, ?_⟩, fun _ _ => trivial⟩
    rw [Overlay.set_view, Overlay.none_view]
  · rename_i sameMode
    rw [Discipline.wp_monad_bind]
    refine wp_observeAccepted accepts
      (fun row accepted source promoted => ?_)
      fun id seen => wp_commitDuplicate accepts holds seen
    refine wp_processAccepted accepts holds
      ⟨⟨control, isControl, not_not.mp sameMode⟩,
      Overlay.set_view_other (by simp),
      ⟨row, Overlay.set_view_self _ _ _ _, accepted, source, promoted⟩,
      fun scope eventId different => ?_, fun scope senderId identity found => ?_,
      by simp⟩ (fun key isOther => ?_) fun _ _ => rfl
    · exact Overlay.set_view_other (by simpa using different)
    · exact (Overlay.set_view_other (by simp)).trans found
    · have different : key ≠ .inboundEvent request.providerScope
          request.providerEventId := by
        rintro rfl
        simp [BotKey.isEventRow] at isOther
      rw [Overlay.set, Function.update_of_ne different]
      rfl

/-- What a discipline accepts of a switch of the mode. -/
structure AcceptsSwitch {Error : Type}
    (rules : Discipline BotRow IngressEvent Error) : Prop where
  refuses : ∀ error store, rules.refusal error store
  switched : ∀ {store after : BotStore}, rules.invariant store →
    (∀ key, key ≠ .ingressControl → after key = store key) →
    rules.guarantee store .switched after

theorem wp_runIngressSwitch {rules : Discipline BotRow IngressEvent AppError}
    {mode : String} (accepts : AcceptsSwitch rules)
    (holds : rules.invariant store) :
    rules.wp (runIngressSwitch mode) Overlay.none store
      fun _ _ _ => True := by
  unfold runIngressSwitch
  split
  · exact accepts.refuses _ _
  rename_i source _
  rw [Discipline.wp_monad_bind]
  refine ⟨fun hit => ?_, fun older _ miss => ?_, accepts.refuses _ _⟩
  · obtain ⟨control, present⟩ := Option.isSome_iff_exists.mp hit
    rw [present]
    refine ⟨fun _ => ⟨accepts.switched holds fun key different => ?_,
      fun later _ => ⟨trivial, accepts.refuses _ _⟩⟩,
      fun _ _ => accepts.refuses _ _⟩
    rw [Overlay.set_view, Function.update_of_ne different, Overlay.none_view]
  · have absent : Overlay.none.view older .ingressControl = none := by
      simpa using miss
    rw [absent]
    exact accepts.refuses _ _

/-- What a discipline accepts of a call. -/
def Accepts (rules : Discipline BotRow IngressEvent IngressFailure) :
    IngressCall → Prop
  | .process _ request _ decide => AcceptsCall rules request decide
  | .switch _ => AcceptsSwitch rules

/-- Calls that a discipline accepts keep it. -/
theorem wp_serve {rules : Discipline BotRow IngressEvent IngressFailure}
    {call : IngressCall} (accepts : Accepts rules call)
    (holds : rules.invariant store) :
    rules.wp (serve call) Overlay.none store fun _ _ _ => True := by
  cases call with
  | process environment request observation decide =>
      have accepted : AcceptsCall (rules.withRefusal fun error =>
          rules.refusal (IngressFailure.process error)) request decide := by
        refine ⟨fun _ _ => accepts.refuses _ _, accepts.stays,
          accepts.duplicate, accepts.rejected, ?_⟩
        intro store after accountId context decision holds isFrom decided
          processes moved performs
        simp only [Discipline.earlier_withRefusal] at isFrom
        refine accepts.processed holds isFrom decided processes moved ?_
        simpa only [PerformsAll, SeesConversation,
          Discipline.earlier_withRefusal] using performs
      unfold serve
      rw [Discipline.wp_monad_bind, Discipline.wp_mapError]
      exact wp_process accepted holds
  | switch mode =>
      unfold serve
      rw [Discipline.wp_monad_bind, Discipline.wp_mapError]
      exact wp_runIngressSwitch ⟨fun _ _ => accepts.refuses _ _,
        accepts.switched⟩ holds

end Processing

end Ingress

end ZaloBot
