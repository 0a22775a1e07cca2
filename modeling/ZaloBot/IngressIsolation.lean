import ZaloBot.IngressHistories

/-!
# Isolation of accounts

The rows of a user's account, and what the event of one account may do to those
of all others: nothing.  Stored images, extraction attempts and messages that
are there are not touched by any event, and of the jobs only queued ones are.
-/

namespace ZaloBot

open Sessions LabelledRuns TaskPool

/-- The rows of an account. -/
def BelongsTo (accountId : Uuid) : (key : BotKey) → BotRow key → Prop
  | .account id, _ => id = accountId
  | .conversationState id, _ => id = accountId
  | .expense _, row => row.accountId = accountId
  | .submission _, row => row.accountId = accountId
  | .draft _, row => row.accountId = accountId
  | .asset _, row => row.accountId = accountId
  | .activeImage id _, _ => id = accountId
  | .deletionRequest id, _ => id = accountId
  | .summarySchedule id _, _ => id = accountId
  | .insightSnapshot key, _ => key.accountId = accountId
  | .usageCounter scope scopeId _ _, _ =>
      scope = UsageQuota.scopeAccount ∧ scopeId = accountId.text
  | .job _, row => Ingress.IsJobOf accountId row.serializationKey
  | .outbound _, row => row.accountId = some accountId
  | _, _ => False

/-- The contents of a row are of an account. -/
def AccountOwns (accountId : Uuid) (key : BotKey)
    (contents : Option (BotRow key)) : Prop :=
  ∃ row, contents = some row ∧ BelongsTo accountId key row

/-- Receipt images and their traces. -/
def BotKey.isStoredReceipt : BotKey → Bool
  | .asset _ | .activeImage _ _ | .extractionAttempts _ | .object _ => true
  | _ => false

namespace Ingress

section Moves

variable {accountId : Option Uuid} {effects : List IngressEffect}
  {request : IngressRequest} {owner : Uuid}

theorem not_owns_of_rows {key : BotKey} {old new : Option (BotRow key)}
    (foreignOld : ∀ row, old = some row → ¬ BelongsTo owner key row)
    (foreignNew : ∀ row, new = some row → ¬ BelongsTo owner key row) :
    ¬ (AccountOwns owner key old ∨ AccountOwns owner key new) := by
  rintro (⟨row, present, belongs⟩ | ⟨row, present, belongs⟩)
  · exact foreignOld row present belongs
  · exact foreignNew row present belongs

theorem ExpenseMove.owned {id : Uuid} {old new : Option ExpenseRow}
    (move : ExpenseMove accountId effects id old new) :
    (∀ row, old = some row → accountId = some row.accountId) ∧
      ∀ row, new = some row → accountId = some row.accountId := by
  cases move with
  | entered _ _ _ _ _ _ _ _ isOwner | booked _ _ _ isOwner =>
      exact ⟨by simp, by rintro _ ⟨⟩; exact isOwner⟩
  | settled _ _ isOwner | edited _ _ isOwner | recategorized _ _ isOwner =>
      constructor <;> rintro _ ⟨⟩ <;> exact isOwner

theorem SubmissionMove.owned {old new : Option SubmissionRow}
    (move : SubmissionMove accountId effects old new) :
    (∀ row, old = some row → accountId = some row.accountId) ∧
      ∀ row, new = some row → accountId = some row.accountId := by
  cases move with
  | accepted _ _ isOwner => exact ⟨by simp, by rintro _ ⟨⟩; exact isOwner⟩
  | moved _ _ _ _ _ _ _ isOwner =>
      constructor <;> rintro _ ⟨⟩ <;> exact isOwner

theorem DraftMove.owned {id : Uuid} {old new : Option DraftRow}
    (move : DraftMove accountId effects id old new) :
    (∀ row, old = some row → accountId = some row.accountId) ∧
      ∀ row, new = some row → accountId = some row.accountId := by
  cases move with
  | edited _ _ _ isOwner _ _ sameAccount =>
      refine ⟨by rintro _ ⟨⟩; exact isOwner, ?_⟩
      rintro _ ⟨⟩
      rw [sameAccount]
      exact isOwner
  | recategorized _ _ isOwner =>
      constructor <;> rintro _ ⟨⟩ <;> exact isOwner

theorem JobMove.owned {old new : Option JobRow}
    (move : JobMove accountId effects old new) :
    (∀ row, old = some row → ∀ id, IsJobOf id row.serializationKey →
        accountId = some id) ∧
      ∀ row, new = some row → ∀ id, IsJobOf id row.serializationKey →
        accountId = some id := by
  cases move with
  | queued _ _ _ owned => exact ⟨by simp, by rintro _ ⟨⟩; exact owned⟩
  | timed _ _ _ owned => constructor <;> rintro _ ⟨⟩ <;> exact owned
  | cancelled row _ other _ isOwner keyed =>
      have owned (id : Uuid) (isJob : IsJobOf id row.serializationKey) :
          accountId = some id := by
        rcases keyed with same | same <;> rw [same] at isJob
        · exact isOwner.trans (congrArg some isJob.eq_of_account)
        · exact isOwner.trans (congrArg some isJob.eq_of_receipt)
      constructor <;> rintro _ ⟨⟩ <;> exact owned

/-- An event moves no row of another account, to or from it. -/
theorem EventMoves.isolated {key : BotKey} {old new : Option (BotRow key)}
    (foreign : accountId ≠ some owner)
    (move : EventMoves accountId effects request key old new) :
    ¬ (AccountOwns owner key old ∨ AccountOwns owner key new) := by
  cases key with
  | account id | conversationState id | deletionRequest id =>
      exact not_owns_of_rows
        (fun _ _ same => foreign (move.1.trans (congrArg some same)))
        fun _ _ same => foreign (move.1.trans (congrArg some same))
  | summarySchedule id frequency =>
      have isOwner : accountId = some id := move.1
      exact not_owns_of_rows
        (fun _ _ same => foreign (isOwner.trans (congrArg some same)))
        fun _ _ same => foreign (isOwner.trans (congrArg some same))
  | expense id =>
      have owned := ExpenseMove.owned move
      exact not_owns_of_rows
        (fun row present same =>
          foreign ((owned.1 row present).trans (congrArg some same)))
        fun row present same =>
          foreign ((owned.2 row present).trans (congrArg some same))
  | submission id =>
      have owned := SubmissionMove.owned move
      exact not_owns_of_rows
        (fun row present same =>
          foreign ((owned.1 row present).trans (congrArg some same)))
        fun row present same =>
          foreign ((owned.2 row present).trans (congrArg some same))
  | draft id =>
      have owned := DraftMove.owned move
      exact not_owns_of_rows
        (fun row present same =>
          foreign ((owned.1 row present).trans (congrArg some same)))
        fun row present same =>
          foreign ((owned.2 row present).trans (congrArg some same))
  | outbound idempotencyKey =>
      cases move.2 with
      | sent row isOwner =>
          refine not_owns_of_rows (by simp) ?_
          rintro _ ⟨⟩ same
          exact foreign (isOwner.symm.trans same)
  | asset | activeImage | ingressControl | inboundEvent | providerIdentity
  | extractionAttempts | object => exact move.elim
  | job dedupeKey =>
      have owned := JobMove.owned move
      exact not_owns_of_rows
        (fun row present isJob => foreign (owned.1 row present _ isJob))
        fun row present isJob => foreign (owned.2 row present _ isJob)
  | usageCounter scope scopeId period metric =>
      obtain ⟨other, isOther, _, isText⟩ := move.1
      have isOwner {id : Uuid} (same : scopeId = id.text) :
          accountId = some id :=
        isOther.trans (congrArg (some ∘ Uuid.mk) (isText.symm.trans same))
      exact not_owns_of_rows
        (fun _ _ belongs => foreign (isOwner belongs.2))
        fun _ _ belongs => foreign (isOwner belongs.2)
  | insightSnapshot key =>
      have isOwner : accountId = some key.accountId := move.1
      exact not_owns_of_rows
        (fun _ _ same => foreign (isOwner.trans (congrArg some same)))
        fun _ _ same => foreign (isOwner.trans (congrArg some same))
  | receiptExpense | eventSubmission | corrections =>
      exact not_owns_of_rows (fun _ _ => id) fun _ _ => id

/-- A message that an event adds is its own reply, and was not there. -/
theorem message_sent {idempotencyKey : String}
    {old new : Option OutboundRow}
    (chain : Relation.ReflTransGen (EventMoves accountId effects request
      (.outbound idempotencyKey)) old new) (changed : new ≠ old) :
    idempotencyKey = replyKey request ∧ old = none ∧
      ∃ row, new = some row ∧ row.accountId = accountId ∧
        row.attemptCount = 0 := by
  induction chain with
  | refl => contradiction
  | @tail middle last _ move ih =>
      obtain ⟨isReply, sent⟩ := move
      cases sent with
      | sent row isOwner keyed fresh unsent =>
          by_cases same : old = none
          · exact ⟨isReply, same, row, rfl, isOwner, unsent⟩
          · obtain ⟨_, absent, _⟩ := ih (Ne.symm same)
            exact absurd absent same

/-- Only the processing of an event moves rows. -/
theorem moves_processed {event : IngressEvent} {key : BotKey}
    {old new : Option (BotRow key)} (move : event.moves key old new) :
    ∃ request accountId effects,
      event = .processed request accountId effects := by
  cases event with
  | processed request accountId effects =>
      exact ⟨request, accountId, effects, rfl⟩
  | duplicate | modeRejected | reviewFollowup | failureFollowup | switched =>
      exact move.elim

theorem moves_still {event : IngressEvent} {key : BotKey}
    {old new : Option (BotRow key)} (isStored : key.isStoredReceipt = true)
    (move : event.moves key old new) : new = old := by
  obtain ⟨request, accountId, effects, rfl⟩ := moves_processed move
  cases key <;> first | exact move.elim | contradiction

/-- What an event may make of a job that is there. -/
structure JobStays (accountId : Option Uuid) (effects : List IngressEffect)
    (row next : JobRow) : Prop where
  inHand : row.state ≠ .queued → next = row
  queued : next.state = .queued → next = { row with runAt := next.runAt }
  cancelled : row.state = .queued → next.state ≠ .queued →
    next.state = .cancelled ∧ .confirmAccountDeletion ∈ effects ∧
      ∃ owner, accountId = some owner ∧
        (row.serializationKey = some (accountSerializationKey owner) ∨
          row.serializationKey = some (receiptSerializationKey owner))

/-- What an event does to a job that is there when it is committed. -/
theorem job_stays {before after : BotStore}
    (moved : EventMoved accountId effects request before after)
    {dedupeKey : String} {row : JobRow}
    (present : before (.job dedupeKey) = some row) :
    ∃ next, after (.job dedupeKey) = some next ∧
      JobStays accountId effects row next := by
  refine chain_keeps (fun contents : Option JobRow => ∃ next,
    contents = some next ∧ JobStays accountId effects row next) ?_
    (moved (.job dedupeKey) rfl) ⟨row, present, fun _ => rfl, fun _ => rfl,
      fun queued notQueued => absurd queued notQueued⟩
  rintro old new move ⟨current, rfl, stays⟩
  have queuedBefore (isQueued : current.state = .queued) :
      row.state = .queued := by
    by_contra inHand
    have same := stays.inHand inHand
    rw [same] at isQueued
    exact inHand isQueued
  cases move with
  | timed _ runAt queued =>
      refine ⟨_, rfl, fun inHand => absurd (queuedBefore queued) inHand,
        fun _ => ?_, fun _ notQueued => absurd queued notQueued⟩
      rw [stays.queued queued]
  | cancelled _ now owner queued isOwner keyed asked =>
      have same := stays.queued queued
      refine ⟨_, rfl, fun inHand => absurd (queuedBefore queued) inHand,
        fun stillQueued => ?_, fun _ _ => ⟨rfl, asked, owner, isOwner, ?_⟩⟩
      · contradiction
      · rwa [same] at keyed

/-- No event moves a job that is not queued. -/
theorem JobMove.queued_of_move {row : JobRow} {new : Option JobRow}
    (move : JobMove accountId effects (some row) new) :
    row.state = .queued := by
  cases move with
  | timed _ _ queued | cancelled _ _ _ queued => exact queued

theorem Progresses.job_in_hand {before after : BotStore}
    (progresses : Progresses before after) {dedupeKey : String} {row : JobRow}
    (present : before (.job dedupeKey) = some row)
    (inHand : row.state ≠ .queued) : after (.job dedupeKey) = some row := by
  refine chain_keeps (· = some row) ?_ (progresses.rows (.job dedupeKey) rfl)
    present
  rintro _ new ⟨event, move⟩ rfl
  obtain ⟨request, accountId, effects, rfl⟩ := moves_processed move
  exact absurd (JobMove.queued_of_move move) inHand

/-- The job is there and has left the queue. -/
def IsInHand (dedupeKey : String) (store : BotStore) : Prop :=
  ∃ row, store (.job dedupeKey) = some row ∧ row.state ≠ .queued

end Moves

section Runs

variable {initial : BotStore}
  {pool : Pool (Database BotRow IngressEvent)
    (SessionTask BotRow IngressEvent IngressFailure IngressAnswer)}

/-- However calls interleave, the event of one account changes no row of
another account, and no event changes stored images or messages that are
there: its own reply is the only message it adds.  What is not the processing
of an event changes nothing but rows of events. -/
theorem events_are_isolated
    (run : SessionReaches serve (Pool.idle (Database.fresh initial)) pool) :
    ∀ publication ∈ pool.world.log,
      (∀ request accountId effects,
        publication.event = .processed request accountId effects →
        (∀ owner, accountId ≠ some owner → ∀ key row,
          BelongsTo owner key row →
            (publication.after key = some row ↔
              publication.before key = some row)) ∧
        ∀ idempotencyKey,
          publication.after (.outbound idempotencyKey) ≠
              publication.before (.outbound idempotencyKey) →
            idempotencyKey = replyKey request ∧
            publication.before (.outbound idempotencyKey) = none ∧
            ∃ row, publication.after (.outbound idempotencyKey) = some row ∧
              row.accountId = accountId ∧ row.attemptCount = 0) ∧
      (∀ key, key.isStoredReceipt = true →
        publication.after key = publication.before key) ∧
      ((∀ request accountId effects,
          publication.event ≠ .processed request accountId effects) →
        ∀ key, key.isEventRow = false →
          publication.after key = publication.before key) := by
  have history := history_of_reaches run
  intro publication member
  have commits : CommitsEvent initial publication.before publication.event
      publication.after := (history.of_mem member).2.2.1
  refine ⟨fun request accountId effects isEvent => ?_, ?_,
    fun other key isOther => commits.publishes.same_of_other isOther other⟩
  · have moved : EventMoved accountId effects request publication.before
        publication.after := by
      have moves := commits.moved
      rwa [isEvent] at moves
    refine ⟨fun owner foreign key row belongs => ?_,
      fun idempotencyKey changed => ?_⟩
    · cases isEventRow : key.isEventRow with
      | true => cases key <;> first | exact belongs.elim | contradiction
      | false =>
          have same (owned : AccountOwns owner key (publication.before key) ∨
              AccountOwns owner key (publication.after key)) :
              publication.after key = publication.before key :=
            eq_of_chain_guarded (AccountOwns owner key)
              (fun _ _ move guarded => absurd guarded (move.isolated foreign))
              (moved key isEventRow) owned
          constructor <;> intro present
          · exact (same (.inr ⟨row, present, belongs⟩)).symm.trans present
          · exact (same (.inl ⟨row, present, belongs⟩)).trans present
    · exact message_sent (moved (.outbound idempotencyKey) rfl) changed
  · intro key isStored
    have isOther : key.isEventRow = false := by
      cases key <;> first | rfl | contradiction
    exact eq_of_chain (fun _ _ move => moves_still isStored move)
      (commits.moved key isOther)

theorem events_are_isolated_consented :
    ∃ pool, runLabels (poolStep (sessionAct serve))
        (Pool.idle (Database.fresh BotStore.initial))
        (memberRun [.grantConsent Conversation.consentVersion] 0) =
          some pool ∧
      pool.world.log.map (fun publication => publication.event) =
        [.duplicate memberRequest,
          .processed neighbourRequest (some ⟨"account 2"⟩)
            [.grantConsent Conversation.consentVersion],
          .processed memberRequest (some ⟨"account"⟩)
            [.grantConsent Conversation.consentVersion]] ∧
      ∀ publication ∈ pool.world.log, ∀ request effects,
        publication.event =
          .processed request (some ⟨"account 2"⟩) effects →
        ∀ key row, BelongsTo ⟨"account"⟩ key row →
          (publication.after key = some row ↔
            publication.before key = some row) := by
  have runs : ∃ pool, runLabels (poolStep (sessionAct serve))
        (Pool.idle (Database.fresh BotStore.initial))
        (memberRun [.grantConsent Conversation.consentVersion] 0) =
          some pool ∧
      pool.world.log.map (fun publication => publication.event) =
        [.duplicate memberRequest,
          .processed neighbourRequest (some ⟨"account 2"⟩)
            [.grantConsent Conversation.consentVersion],
          .processed memberRequest (some ⟨"account"⟩)
            [.grantConsent Conversation.consentVersion]] :=
    ⟨_, rfl, rfl⟩
  obtain ⟨pool, ran, published⟩ := runs
  refine ⟨pool, ran, published,
    fun publication member request effects isEvent => ?_⟩
  exact ((events_are_isolated
    (reaches_of_runLabels (permits_anyStep _ (memberRun _ 0)) ran)
    publication member).1 request (some ⟨"account 2"⟩) effects isEvent).1
      ⟨"account"⟩ (by decide)

/-- However calls interleave, a job that has left the queue stays as it is, and
a queued one is there as it was, but for its time, until at most one event of
its own account cancels it with the confirmed deletion of that account. -/
theorem jobs_in_hand_are_kept
    (run : SessionReaches serve (Pool.idle (Database.fresh initial)) pool)
    (dedupeKey : String) :
    (∀ publication ∈ pool.world.log, ∀ row,
      publication.before (.job dedupeKey) = some row →
      row.state ≠ .queued → pool.world.store (.job dedupeKey) = some row) ∧
    (∀ publication ∈ pool.world.log, ∀ row,
      publication.before (.job dedupeKey) = some row → row.state = .queued →
      ∃ next, publication.after (.job dedupeKey) = some next ∧
        (next = { row with runAt := next.runAt } ∨
          next.state = .cancelled ∧ ∃ request owner effects,
            publication.event = .processed request (some owner) effects ∧
            .confirmAccountDeletion ∈ effects ∧
            (row.serializationKey = some (accountSerializationKey owner) ∨
              row.serializationKey =
                some (receiptSerializationKey owner)))) ∧
    pool.world.log.Pairwise fun later earlier =>
      ¬ ((¬ IsInHand dedupeKey later.before ∧
          IsInHand dedupeKey later.after) ∧
        ¬ IsInHand dedupeKey earlier.before ∧
          IsInHand dedupeKey earlier.after) := by
  have history := history_of_reaches run
  refine ⟨fun publication member row present inHand => ?_,
    fun publication member row present queued => ?_, ?_⟩
  · have commits := (history.of_mem member).2.2.1
    have advances : Progresses publication.after pool.world.store :=
      history.advances_of_mem member
    exact (commits.progresses.trans advances).job_in_hand present inHand
  · have commits : CommitsEvent initial publication.before publication.event
        publication.after := (history.of_mem member).2.2.1
    cases isEvent : publication.event with
    | processed request accountId effects =>
        have moved : EventMoved accountId effects request publication.before
            publication.after := by
          have moves := commits.moved
          rwa [isEvent] at moves
        obtain ⟨next, isNext, stays⟩ := job_stays moved present
        refine ⟨next, isNext, ?_⟩
        by_cases stillQueued : next.state = .queued
        · exact .inl (stays.queued stillQueued)
        · obtain ⟨cancelled, asked, owner, rfl, keyed⟩ :=
            stays.cancelled queued stillQueued
          exact .inr ⟨cancelled, request, owner, effects, rfl, asked, keyed⟩
    | duplicate | modeRejected | reviewFollowup | failureFollowup
    | switched =>
        refine ⟨row, ?_, .inl rfl⟩
        rw [← present]
        refine eq_of_chain (fun _ _ move => ?_)
          (commits.moved (.job dedupeKey) rfl)
        rw [isEvent] at move
        exact move.elim
  · exact (history.spends_once
      (fun publication => ¬ IsInHand dedupeKey publication.before ∧
        IsInHand dedupeKey publication.after) (IsInHand dedupeKey)
      (fun ⟨row, present, inHand⟩ advances =>
        ⟨row, advances.job_in_hand present inHand, inHand⟩)
      fun _ _ _ _ leaves => leaves).1

theorem jobs_in_hand_are_kept_cancelled :
    ∃ pool, runLabels (poolStep (sessionAct serve))
        (Pool.idle (Database.fresh memberStore))
        (memberRun [.confirmAccountDeletion] 6) = some pool ∧
      (pool.world.store (.job "export")).map JobRow.state =
        some .cancelled ∧
      pool.world.log.Pairwise fun later earlier =>
        ¬ ((¬ IsInHand "export" later.before ∧
            IsInHand "export" later.after) ∧
          ¬ IsInHand "export" earlier.before ∧
            IsInHand "export" earlier.after) := by
  have runs : ∃ pool, runLabels (poolStep (sessionAct serve))
        (Pool.idle (Database.fresh memberStore))
        (memberRun [.confirmAccountDeletion] 6) = some pool ∧
      (pool.world.store (.job "export")).map JobRow.state =
        some .cancelled :=
    ⟨_, rfl, rfl⟩
  obtain ⟨pool, ran, cancelled⟩ := runs
  exact ⟨pool, ran, cancelled, (jobs_in_hand_are_kept
    (reaches_of_runLabels (permits_anyStep _ (memberRun _ 6)) ran)
    "export").2.2⟩

end Runs

end Ingress

end ZaloBot
