import ZaloBot.IngressHistories
import ZaloBot.IngressOrders

/-!
# Histories of accounts

An account is opened while its consent is pending, becomes active when its own
event grants the consent, and from then on can only be turned to deletion by
its own event.
-/

namespace ZaloBot

open Sessions LabelledRuns TaskPool

namespace Ingress

theorem Progresses.account {before after : BotStore}
    (progresses : Progresses before after) (id : Uuid) :
    AccountOrder (before (.account id)) (after (.account id)) := by
  refine Relation.reflTransGen_le_of_le ?_ _ _
    (progresses.rows (.account id) rfl)
  rintro old new ⟨event, move⟩
  cases event with
  | processed request accountId effects => exact move.2.order
  | duplicate | modeRejected | reviewFollowup | failureFollowup | switched =>
      exact move.elim

/-- The consent of the account is not recorded. -/
def IsUnconsented (id : Uuid) (store : BotStore) : Prop :=
  ∀ row, store (.account id) = some row → row.lifecycleState = .pendingConsent

/-- The account is being deleted. -/
def IsDeleting (id : Uuid) (store : BotStore) : Prop :=
  ∃ row, store (.account id) = some row ∧ row.lifecycleState = .deleting

theorem IsUnconsented.of_progresses {id : Uuid} {before after : BotStore}
    (progresses : Progresses before after)
    (unconsented : IsUnconsented id after) : IsUnconsented id before := by
  intro row present
  obtain ⟨next, isNext, stays⟩ := progresses.account id row present
  by_contra granted
  exact LifecycleState.ne_pendingConsent_of_steps stays.lifecycle granted
    (unconsented next isNext)

theorem IsDeleting.of_progresses {id : Uuid} {before after : BotStore}
    (deleting : IsDeleting id before) (progresses : Progresses before after) :
    IsDeleting id after := by
  obtain ⟨row, present, isDeleting⟩ := deleting
  obtain ⟨next, isNext, stays⟩ := progresses.account id row present
  exact ⟨next, isNext,
    LifecycleState.eq_deleting_of_steps stays.lifecycle isDeleting⟩

/-- A publication records the consent of the account. -/
def Consents (id : Uuid) (publication : Publication BotRow IngressEvent) :
    Prop :=
  IsUnconsented id publication.before ∧ ¬ IsUnconsented id publication.after

/-- A publication turns the account to deletion. -/
def Deletes (id : Uuid) (publication : Publication BotRow IngressEvent) :
    Prop :=
  ¬ IsDeleting id publication.before ∧ IsDeleting id publication.after

/-- A move of an account is made by its own event. -/
theorem moves_account {event : IngressEvent} {id : Uuid}
    {old new : Option AccountRow} (move : event.moves (.account id) old new) :
    ∃ request effects, event = .processed request (some id) effects ∧
      AccountMove effects old new := by
  cases event with
  | processed request accountId effects =>
      obtain ⟨rfl, move⟩ := move
      exact ⟨request, effects, rfl, move⟩
  | duplicate | modeRejected | reviewFollowup | failureFollowup | switched =>
      exact move.elim

/-- Consent is recorded by an event of the account that grants it. -/
theorem CommitsEvent.consents {origin before after : BotStore} {event : IngressEvent}
    (commits : CommitsEvent origin before event after) {id : Uuid}
    (fresh : IsUnconsented id before) (granted : ¬ IsUnconsented id after) :
    ∃ request effects version row,
      event = .processed request (some id) effects ∧
      .grantConsent version ∈ effects ∧
      after (.account id) = some row ∧
      row.consentVersion = some version ∧ row.consentedAt.isSome = true := by
  obtain ⟨request, effects, rfl⟩ :
      ∃ request effects, event = .processed request (some id) effects := by
    have changed : after (.account id) ≠ before (.account id) := by
      intro same
      apply granted
      intro row present
      exact fresh row (same.symm.trans present)
    obtain ⟨old, new, move⟩ := commits.moved.exists_move rfl changed
    obtain ⟨request, effects, isEvent, _⟩ := moves_account move
    exact ⟨request, effects, isEvent⟩
  let recorded (contents : Option AccountRow) : Prop :=
    ∀ row, contents = some row → row.lifecycleState = .pendingConsent ∨
      ∃ version, .grantConsent version ∈ effects ∧
        row.consentVersion = some version ∧ row.consentedAt.isSome = true
  have established : recorded (after (.account id)) := by
    refine chain_keeps recorded ?_ (commits.moved (.account id) rfl)
      fun row present => Or.inl (fresh row present)
    rintro old new ⟨_, move⟩ recordedBefore found present
    cases move with
    | opened =>
        cases present
        exact .inl rfl
    | consented row version now pending asked =>
        cases present
        exact .inr ⟨version, asked, rfl, rfl⟩
    | translated row locale =>
        cases present
        exact recordedBefore row rfl
    | relocated row timezone =>
        cases present
        exact recordedBefore row rfl
    | deleting row alive asked =>
        cases present
        refine .inr ((recordedBefore row rfl).resolve_left fun pending => ?_)
        simp [pending] at alive
  simp only [IsUnconsented, not_forall] at granted
  obtain ⟨row, present, notPending⟩ := granted
  obtain ⟨version, asked, rest⟩ :=
    (established row present).resolve_left notPending
  exact ⟨request, effects, version, row, rfl, asked, present, rest⟩

/-- Deletion is begun by an event of the account that confirms it. -/
theorem CommitsEvent.deletes {origin before after : BotStore} {event : IngressEvent}
    (commits : CommitsEvent origin before event after) {id : Uuid}
    (fresh : ¬ IsDeleting id before) (begun : IsDeleting id after) :
    ∃ request effects, event = .processed request (some id) effects ∧
      .confirmAccountDeletion ∈ effects := by
  let deleting (contents : Option AccountRow) : Prop :=
    ∃ row, contents = some row ∧ row.lifecycleState = .deleting
  obtain ⟨old, new, move, notYet, row, rfl, isDeleting⟩ :
      ∃ old new, event.moves (.account id) old new ∧ ¬ deleting old ∧
        deleting new :=
    chain_establishes (commits.moved (.account id) rfl) fresh begun
  obtain ⟨request, effects, isEvent, accountMove⟩ := moves_account move
  refine ⟨request, effects, isEvent, ?_⟩
  cases accountMove with
  | opened => contradiction
  | consented row version now pending asked => contradiction
  | translated row locale => exact absurd ⟨row, rfl, isDeleting⟩ notYet
  | relocated row timezone => exact absurd ⟨row, rfl, isDeleting⟩ notYet
  | deleting row alive asked => exact asked

section Runs

variable {initial : BotStore}
  {pool : Pool (Database BotRow IngressEvent)
    (SessionTask BotRow IngressEvent IngressFailure IngressAnswer)}

/-- However calls interleave, an account only moves from pending consent to
active and from there to deletion, by its own events.  Its consent is recorded
at most once, by an event that grants it, and stays as recorded; its deletion
begins at most once, by an event that confirms it. -/
theorem accounts_move_forward
    (run : SessionReaches serve (Pool.idle (Database.fresh initial)) pool)
    (id : Uuid) :
    (∀ publication ∈ pool.world.log,
      AccountOrder (publication.before (.account id))
          (publication.after (.account id)) ∧
      AccountOrder (publication.after (.account id))
          (pool.world.store (.account id)) ∧
      (publication.after (.account id) ≠ publication.before (.account id) →
        ∃ request effects,
          publication.event = .processed request (some id) effects)) ∧
    (pool.world.log.Pairwise fun later earlier =>
      ¬ (Consents id later ∧ Consents id earlier)) ∧
    (∀ publication ∈ pool.world.log, Consents id publication →
      ∃ request effects version row,
        publication.event = .processed request (some id) effects ∧
        .grantConsent version ∈ effects ∧
        pool.world.store (.account id) = some row ∧
        row.consentVersion = some version ∧
        row.consentedAt.isSome = true) ∧
    (pool.world.log.Pairwise fun later earlier =>
      ¬ (Deletes id later ∧ Deletes id earlier)) ∧
    (∀ publication ∈ pool.world.log, Deletes id publication →
      ∃ request effects,
        publication.event = .processed request (some id) effects ∧
        .confirmAccountDeletion ∈ effects) := by
  have history := history_of_reaches run
  have commits (publication) (member : publication ∈ pool.world.log) :
      CommitsEvent initial publication.before publication.event
        publication.after :=
    (history.of_mem member).2.2.1
  have stays (publication) (member : publication ∈ pool.world.log) :
      Progresses publication.after pool.world.store :=
    history.advances_of_mem member
  refine ⟨fun publication member => ⟨?_, ?_, fun changed => ?_⟩, ?_, ?_, ?_,
    fun publication member deletes => ?_⟩
  · exact (commits publication member).progresses.account id
  · exact (stays publication member).account id
  · obtain ⟨old, new, move⟩ :=
      (commits publication member).moved.exists_move rfl changed
    obtain ⟨request, effects, isEvent, _⟩ := moves_account move
    exact ⟨request, effects, isEvent⟩
  · exact (history.spends_once (Consents id)
      (fun store => ¬ IsUnconsented id store)
      (fun granted progresses unconsented =>
        granted (unconsented.of_progresses progresses))
      fun publication _ _ _ consents =>
        ⟨not_not.mpr consents.1, consents.2⟩).1
  · intro publication member consents
    obtain ⟨request, effects, version, row, isEvent, asked, present,
      isVersion, isTime⟩ := (commits publication member).consents consents.1
        consents.2
    obtain ⟨next, isNext, kept⟩ :=
      (stays publication member).account id row present
    have granted : row.lifecycleState ≠ .pendingConsent := by
      intro pending
      apply consents.2
      intro other isOther
      rw [present] at isOther
      cases isOther
      exact pending
    have same := kept.consent (.inl granted)
    exact ⟨request, effects, version, next, isEvent, asked, isNext,
      same.1.trans isVersion, same.2 ▸ isTime⟩
  · exact (history.spends_once (Deletes id) (IsDeleting id)
      IsDeleting.of_progresses fun publication _ _ _ deletes => deletes).1
  · exact (commits publication member).deletes deletes.1 deletes.2

theorem accounts_move_forward_consented :
    ∃ pool, runLabels (poolStep (sessionAct serve))
        (Pool.idle (Database.fresh BotStore.initial))
        (memberRun [.grantConsent Conversation.consentVersion] 0) =
          some pool ∧
      (pool.world.store (.account ⟨"account"⟩)).map
        AccountRow.lifecycleState = some .active ∧
      (pool.world.store (.account ⟨"account 2"⟩)).map
        AccountRow.lifecycleState = some .active ∧
      pool.world.log.Pairwise fun later earlier =>
        ¬ (Consents ⟨"account"⟩ later ∧ Consents ⟨"account"⟩ earlier) := by
  have runs : ∃ pool, runLabels (poolStep (sessionAct serve))
        (Pool.idle (Database.fresh BotStore.initial))
        (memberRun [.grantConsent Conversation.consentVersion] 0) =
          some pool ∧
      (pool.world.store (.account ⟨"account"⟩)).map
        AccountRow.lifecycleState = some .active ∧
      (pool.world.store (.account ⟨"account 2"⟩)).map
        AccountRow.lifecycleState = some .active :=
    ⟨_, rfl, rfl, rfl⟩
  obtain ⟨pool, ran, active, other⟩ := runs
  exact ⟨pool, ran, active, other, (accounts_move_forward
    (reaches_of_runLabels (permits_anyStep _ (memberRun _ 0)) ran)
    ⟨"account"⟩).2.1⟩

end Runs

end Ingress

end ZaloBot
