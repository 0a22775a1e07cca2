import ZaloBot.ReceiptStatementRules
import ZaloBot.SessionComposition

/-!
# Accepting receipts once

Calls of `accept_submission` run in any number and any order, with any
accounts, submissions and inbound events, failing or dropped anywhere.  An
insertion may meet the submission, its event, or both; the lookup then follows
either, and the job has a key of its own.  A call still inserts a submission
together with its entry in the index of events and its ingestion job, or
changes nothing.
-/

namespace ZaloBot

open Sessions LabelledRuns TaskPool

/-- A `receipt.ingest` job whose payload names the submission. -/
def JobRow.Ingests (job : JobRow) (id : Uuid) : Prop :=
  job.jobType = jobTypeIngest ∧
    job.payload.members.lookup "receipt_submission_id" = some id.text

theorem JobRow.Ingests.unique {job : JobRow} {first second : Uuid}
    (ingestsFirst : job.Ingests first) (ingestsSecond : job.Ingests second) :
    first = second := by
  have same : first.text = second.text :=
    Option.some.inj (ingestsFirst.2.symm.trans ingestsSecond.2)
  cases first
  cases second
  exact congrArg Uuid.mk same

/-- Every submission is past `pending`, indexed by its event and queued with
its job, and ingestion jobs belong to submissions. -/
structure AcceptedReceipts (store : BotStore) : Prop where
  accepted : ∀ id row, store (.submission id) = some row →
    row.state ≠ .pending
  indexed : ∀ id row eventId, store (.submission id) = some row →
    row.inboundEventId = some eventId →
    store (.eventSubmission eventId) = some id
  queued : ∀ id row, store (.submission id) = some row →
    ∃ job, store (.job (ingestDedupeKey id)) = some job ∧ job.Ingests id
  owned : ∀ id job, store (.job (ingestDedupeKey id)) = some job →
    (store (.submission id)).isSome
  keyed : ∀ dedupeKey job id, store (.job dedupeKey) = some job →
    job.Ingests id → dedupeKey = ingestDedupeKey id

/-- Submissions stay, with their account and their event. -/
def SubmissionsStay (before after : BotStore) : Prop :=
  ∀ id row, before (.submission id) = some row →
    ∃ next, after (.submission id) = some next ∧
      next.accountId = row.accountId ∧
      next.inboundEventId = row.inboundEventId

theorem SubmissionsStay.refl (store : BotStore) :
    SubmissionsStay store store :=
  fun _ row present => ⟨row, present, rfl, rfl⟩

theorem SubmissionsStay.trans {first middle last : BotStore}
    (begun : SubmissionsStay first middle)
    (ended : SubmissionsStay middle last) : SubmissionsStay first last := by
  intro id row present
  obtain ⟨next, found, account, event⟩ := begun id row present
  obtain ⟨final, foundFinal, accountFinal, eventFinal⟩ :=
    ended id next found
  exact ⟨final, foundFinal, accountFinal.trans account,
    eventFinal.trans event⟩

namespace AcceptSubmissionRequest

variable {store before after : BotStore} {request : AcceptSubmissionRequest}

/-- The request asks for this submission, or for one of its event. -/
def Matches (request : AcceptSubmissionRequest) (id : Uuid)
    (row : SubmissionRow) : Prop :=
  id = request.submissionId ∨ ∃ eventId,
    request.inboundEventId = some eventId ∧
      row.inboundEventId = some eventId

/-- The account of the request has a submission that it asks for. -/
def IsAnswered (request : AcceptSubmissionRequest) (store : BotStore) :
    Prop :=
  ∃ id row, store (.submission id) = some row ∧ request.Matches id row ∧
    row.accountId = request.accountId

/-- The event of the request has a submission of another account. -/
def IsForeign (request : AcceptSubmissionRequest) (store : BotStore) : Prop :=
  ∃ eventId id row, request.inboundEventId = some eventId ∧
    store (.submission id) = some row ∧
    row.inboundEventId = some eventId ∧ row.accountId ≠ request.accountId

theorem IsAnswered.stays (answered : request.IsAnswered before)
    (stay : SubmissionsStay before after) : request.IsAnswered after := by
  obtain ⟨id, row, present, matching, account⟩ := answered
  obtain ⟨next, found, sameAccount, sameEvent⟩ := stay id row present
  refine ⟨id, next, found, ?_, sameAccount.trans account⟩
  rw [Matches, sameEvent]
  exact matching

end AcceptSubmissionRequest

namespace AcceptedReceipts

variable {store before after : BotStore} {request : AcceptSubmissionRequest}

theorem eventUnique (holds : AcceptedReceipts store) {first second : Uuid}
    {firstRow secondRow : SubmissionRow} {eventId : Uuid}
    (presentFirst : store (.submission first) = some firstRow)
    (presentSecond : store (.submission second) = some secondRow)
    (eventFirst : firstRow.inboundEventId = some eventId)
    (eventSecond : secondRow.inboundEventId = some eventId) :
    first = second :=
  Option.some.inj ((holds.indexed first firstRow eventId presentFirst
    eventFirst).symm.trans
      (holds.indexed second secondRow eventId presentSecond eventSecond))

theorem jobUnique (holds : AcceptedReceipts store) {id : Uuid}
    {row : SubmissionRow} (present : store (.submission id) = some row) :
    ∃! dedupeKey, ∃ job, store (.job dedupeKey) = some job ∧
      job.Ingests id := by
  refine ⟨ingestDedupeKey id, holds.queued id row present, ?_⟩
  rintro dedupeKey ⟨job, found, ingests⟩
  exact holds.keyed dedupeKey job id found ingests

/-- A request that is answered although its event belongs to another account
repeats the id of a submission. -/
theorem repeated_of_foreign (holds : AcceptedReceipts store)
    (answered : request.IsAnswered store)
    (foreign : request.IsForeign store) :
    (store (.submission request.submissionId)).isSome := by
  obtain ⟨id, row, present, matching, account⟩ := answered
  obtain ⟨eventId, other, otherRow, isEvent, found, otherEvent, stranger⟩ :=
    foreign
  rcases matching with rfl | ⟨sameEvent, isSame, rowEvent⟩
  · simp [present]
  · rw [isEvent] at isSame
    cases isSame
    cases holds.eventUnique present found rowEvent otherEvent
    rw [found] at present
    cases present
    exact absurd account stranger

/-- A new submission, with its entry in the index and its job. -/
theorem accept (holds : AcceptedReceipts before) {id : Uuid}
    {row : SubmissionRow} {job : JobRow}
    (absent : before (.submission id) = none)
    (eventFree : ∀ eventId, row.inboundEventId = some eventId →
      before (.eventSubmission eventId) = none)
    (isAccepted : row.state ≠ .pending) (ingests : job.Ingests id)
    (written : after (.submission id) = some row)
    (enqueued : after (.job (ingestDedupeKey id)) = some job)
    (entered : ∀ eventId, row.inboundEventId = some eventId →
      after (.eventSubmission eventId) = some id)
    (others : ∀ key, key ≠ .submission id →
      key ≠ .job (ingestDedupeKey id) →
      (∀ eventId, row.inboundEventId = some eventId →
        key ≠ .eventSubmission eventId) → after key = before key) :
    AcceptedReceipts after ∧ SubmissionsStay before after := by
  have otherSubmission {other : Uuid} (different : other ≠ id) :
      after (.submission other) = before (.submission other) :=
    others _ (by simpa using different) (by simp) (by simp)
  have otherJob {dedupeKey : String}
      (different : dedupeKey ≠ ingestDedupeKey id) :
      after (.job dedupeKey) = before (.job dedupeKey) :=
    others _ (by simp) (by simpa using different) (by simp)
  have ingestOther {other : Uuid} (different : other ≠ id) :
      ingestDedupeKey other ≠ ingestDedupeKey id :=
    fun same => different (ingestDedupeKey_inj same)
  refine ⟨⟨?_, ?_, ?_, ?_, ?_⟩, ?_⟩
  · intro other otherRow present
    by_cases same : other = id
    · subst same
      rw [written] at present
      cases present
      exact isAccepted
    · rw [otherSubmission same] at present
      exact holds.accepted other otherRow present
  · intro other otherRow eventId present isEvent
    by_cases same : other = id
    · subst same
      rw [written] at present
      cases present
      exact entered eventId isEvent
    · rw [otherSubmission same] at present
      have entry := holds.indexed other otherRow eventId present isEvent
      rw [others _ (by simp) (by simp) ?_]
      · exact entry
      · rintro newEvent isNew isSame
        cases isSame
        rw [eventFree eventId isNew] at entry
        contradiction
  · intro other otherRow present
    by_cases same : other = id
    · subst same
      exact ⟨job, enqueued, ingests⟩
    · rw [otherSubmission same] at present
      rw [otherJob (ingestOther same)]
      exact holds.queued other otherRow present
  · intro other otherJobRow present
    by_cases same : other = id
    · subst same
      simp [written]
    · rw [otherJob (ingestOther same)] at present
      rw [otherSubmission same]
      exact holds.owned other otherJobRow present
  · intro dedupeKey otherJobRow other present otherIngests
    by_cases same : dedupeKey = ingestDedupeKey id
    · subst same
      rw [enqueued] at present
      cases present
      rw [ingests.unique otherIngests]
    · rw [otherJob same] at present
      exact holds.keyed dedupeKey otherJobRow other present otherIngests
  · intro other otherRow present
    have different : other ≠ id := by
      rintro rfl
      rw [absent] at present
      contradiction
    exact ⟨otherRow, (otherSubmission different).trans present, rfl, rfl⟩

end AcceptedReceipts

/-- What an accepted request publishes. -/
structure AcceptsOnce (before : BotStore) (request : AcceptSubmissionRequest)
    (after : BotStore) : Prop where
  holds : AcceptedReceipts after
  stay : SubmissionsStay before after
  answered : request.IsAnswered after
  replayed : ∀ id row, before (.submission id) = some row →
    request.Matches id row → after = before

/-- Publications of accepted requests. -/
def acceptanceRules : Discipline BotRow ReceiptEvent ReceiptFailure where
  invariant := AcceptedReceipts
  advances := SubmissionsStay
  permitted _ _ := True
  guarantee before event after := ∃ request outcome,
    event = .accept request outcome ∧ AcceptsOnce before request after
  refusal _ _ := True
  advances_refl := .refl
  advances_trans := .trans
  keeps := by
    rintro before _ after _ ⟨_, _, _, once⟩
    exact ⟨once.holds, once.stay⟩

namespace Receipts

section Acceptance

variable {request : AcceptSubmissionRequest} {own : Overlay BotRow}
variable {store : BotStore} {now : Timestamp}

theorem satisfiesChecks_queued {id accountId : Uuid}
    {inboundEventId : Option Uuid} :
    ((SubmissionRow.new accountId inboundEventId).transitioned now .queued
      none none none none).satisfiesChecks id = true := by
  simp [SubmissionRow.satisfiesChecks, SubmissionRow.transitioned,
    SubmissionRow.new]

/-- A new submission is queued with its job. -/
theorem once_finishAccept
    {post : AcceptSubmissionOutcome → Overlay BotRow → BotStore → Prop}
    (holds : AcceptedReceipts store)
    (absent : store (.submission request.submissionId) = none)
    (eventFree : ∀ eventId, request.inboundEventId = some eventId →
      store (.eventSubmission eventId) = none)
    (accepted : ∀ outcome last,
      AcceptsOnce store request (last.view store) → post outcome last store) :
    acceptanceRules.wp (finishAcceptInTransaction now request.submissionId
      request.accountId request.ingestJobId)
      ((indexSubmission Overlay.none request.submissionId
        request.inboundEventId).set (.submission request.submissionId)
        (some (.new request.accountId request.inboundEventId))) store
      post := by
  unfold finishAcceptInTransaction
  rw [Discipline.wp_monad_bind]
  refine wp_loadSubmissionForUpdate trivial trivial fun row present _ => ?_
  rw [Overlay.set_view_self] at present
  cases present
  have isPending : (SubmissionRow.new request.accountId
      request.inboundEventId).state = .pending := rfl
  rw [if_pos isPending, Discipline.wp_monad_bind]
  refine wp_transitionState (fun _ => trivial) fun row present _ _ => ?_
  rw [Overlay.set_view_self] at present
  cases present
  refine ⟨satisfiesChecks_queued, ?_⟩
  unfold finishAcceptInTransaction.enqueueIngest
  rw [Discipline.wp_monad_bind]
  refine wp_enqueueReceiptJob (fun _ => trivial) (if_pos rfl) ?_ ?_
  · intro older existing earlier found
    rw [Overlay.set_view_other (by simp), Overlay.set_view_other (by simp),
      indexSubmission_view_other (by simp), Overlay.none_view] at found
    have holdsOlder : AcceptedReceipts older := earlier.invariant
    obtain ⟨row, isRow⟩ := Option.isSome_iff_exists.mp
      (holdsOlder.owned _ existing found)
    obtain ⟨next, isNext, _⟩ := earlier.advances _ row isRow
    rw [absent] at isNext
    contradiction
  · intro last job presentJob jobType members _ same
    refine accepted _ last ?_
    have written : last.view store (.submission request.submissionId) =
        some ((SubmissionRow.new request.accountId
          request.inboundEventId).transitioned now .queued none none none
          none) := by
      rw [Overlay.view, same _ (by simp), ← Overlay.view,
        Overlay.set_view_self]
    have entered (eventId : Uuid)
        (isEvent : request.inboundEventId = some eventId) :
        last.view store (.eventSubmission eventId) =
          some request.submissionId := by
      rw [Overlay.view, same _ (by simp), ← Overlay.view,
        Overlay.set_view_other (by simp), Overlay.set_view_other (by simp),
        isEvent]
      exact Overlay.set_view_self _ _ _ _
    have after := holds.accept absent eventFree (by simp [
      SubmissionRow.transitioned]) ⟨jobType, by simp [members]⟩ written
      presentJob entered fun key notSubmission notJob notEvent => by
        have outside : (indexSubmission Overlay.none request.submissionId
            request.inboundEventId).view store key =
              Overlay.none.view store key :=
          indexSubmission_view_other notEvent
        rw [Overlay.view, same key notJob, ← Overlay.view,
          Overlay.set_view_other notSubmission,
          Overlay.set_view_other notSubmission, outside, Overlay.none_view]
    refine ⟨after.1, after.2, ⟨_, _, written, .inl rfl, rfl⟩, ?_⟩
    rintro id row present (rfl | ⟨eventId, isEvent, rowEvent⟩)
    · rw [absent] at present
      contradiction
    · have entry := holds.indexed id row eventId present rowEvent
      rw [eventFree eventId isEvent] at entry
      contradiction

/-- A call inserts a submission or changes nothing. -/
theorem once_acceptSubmission (holds : AcceptedReceipts store) :
    acceptanceRules.wp (acceptSubmission now request) Overlay.none store
      fun _ _ later => request.IsAnswered later := by
  have commits (outcome : AcceptSubmissionOutcome) (last : Overlay BotRow)
      (once : AcceptsOnce store request (last.view store)) :
      acceptanceRules.wp (commit (.accept request outcome) >>= fun _ =>
        pure outcome) last store
        fun _ _ later => request.IsAnswered later := by
    rw [Discipline.wp_monad_bind]
    refine Discipline.wp_commitTransaction (fun _ => trivial) fun _ =>
      ⟨⟨request, outcome, rfl, once⟩, fun later isLater => ?_⟩
    exact once.answered.stays isLater.advances
  unfold acceptSubmission acceptSubmissionInTransaction
  rw [Discipline.wp_monad_bind, Discipline.wp_monad_bind]
  refine Discipline.wp_query trivial fun _ _ => ?_
  split
  case isFalse => trivial
  rw [Discipline.wp_monad_bind]
  refine wp_insertSubmissionRow (fun _ => trivial) (fun last same _ => ?_)
    fun absent eventFree => ?_
  · rw [Overlay.none_view] at same
    rw [if_neg (by simp), Discipline.wp_monad_bind]
    refine wp_loadExistingSubmission (fun _ => trivial) trivial ?_
    intro id row present matching
    rw [same] at present
    dsimp only
    split
    · trivial
    rename_i account
    split
    · rename_i isPending
      exact absurd isPending (holds.accepted id row present)
    · refine commits _ _ ?_
      rw [same]
      exact ⟨holds, .refl store, ⟨id, row, present, matching,
        not_not.mp account⟩, fun _ _ _ _ => rfl⟩
  · rw [if_pos rfl]
    exact once_finishAccept holds absent eventFree
      fun outcome last once => commits outcome last once

end Acceptance

end Receipts

namespace ReceiptAcceptance

open Receipts

/-- A call of `accept_submission`, which answers with its request. -/
def serve (call : Timestamp × AcceptSubmissionRequest) :
    Operation (AcceptSubmissionRequest × AcceptSubmissionOutcome) := do
  let outcome ← acceptSubmission call.1 call.2
  pure (call.2, outcome)

theorem verifiesAll : acceptanceRules.VerifiesAll (fun _ _ => True) serve
    fun response store => response.1.IsAnswered store := by
  refine .of_wp fun call store holds => ?_
  unfold serve
  rw [Discipline.wp_monad_bind]
  exact Discipline.wp_mono (fun _ _ _ answered => answered)
    (once_acceptSubmission holds)

/-- A database without submissions and their ingestion jobs. -/
structure WithoutSubmissions (store : BotStore) : Prop where
  submissions : ∀ id, store (.submission id) = none
  keys : ∀ id, store (.job (ingestDedupeKey id)) = none
  jobs : ∀ dedupeKey job, store (.job dedupeKey) = some job →
    job.jobType ≠ jobTypeIngest

theorem WithoutSubmissions.holds {store : BotStore}
    (fresh : WithoutSubmissions store) : AcceptedReceipts store where
  accepted id row present := by simp [fresh.submissions] at present
  indexed id row eventId present := by simp [fresh.submissions] at present
  queued id row present := by simp [fresh.submissions] at present
  owned id job present := by simp [fresh.keys] at present
  keyed dedupeKey job id present ingests :=
    absurd ingests.1 (fresh.jobs dedupeKey job present)

variable {initial : BotStore}
variable {pool : Pool (Database BotRow ReceiptEvent)
  (SessionTask BotRow ReceiptEvent ReceiptFailure
    (AcceptSubmissionRequest × AcceptSubmissionOutcome))}

/-- However calls interleave, an event has at most one submission; every
submission is past `pending` and has exactly one ingestion job that names it;
submissions keep their account and their event; and a call whose event has a
submission of another account changes nothing, and succeeds only if its own
submission id is taken. -/
theorem acceptance_is_idempotent (fresh : WithoutSubmissions initial)
    (run : SessionReaches serve (Pool.idle (Database.fresh initial)) pool) :
    (∀ first second firstRow secondRow eventId,
      pool.world.store (.submission first) = some firstRow →
      pool.world.store (.submission second) = some secondRow →
      firstRow.inboundEventId = some eventId →
      secondRow.inboundEventId = some eventId → first = second) ∧
    (∀ id row, pool.world.store (.submission id) = some row →
      row.state ≠ .pending ∧ ∃! dedupeKey, ∃ job,
        pool.world.store (.job dedupeKey) = some job ∧ job.Ingests id) ∧
    (∀ publication ∈ pool.world.log,
      SubmissionsStay publication.before publication.after) ∧
    (∀ publication ∈ pool.world.log, ∃ request outcome,
      publication.event = .accept request outcome ∧
      (request.IsForeign publication.before →
        publication.after = publication.before ∧
        (publication.before (.submission request.submissionId)).isSome)) ∧
    ∀ owner request outcome,
      pool.tasks owner = some (.ended (.ok (request, outcome))) →
      request.IsForeign pool.world.store →
        (pool.world.store (.submission request.submissionId)).isSome := by
  have holds := Discipline.sound_of_reaches verifiesAll fresh.holds
    (fun _ _ _ => ⟨fun _ _ _ _ _ _ => trivial, fun _ _ _ _ => trivial⟩) run
  have accepted : AcceptedReceipts pool.world.store := holds.shared.invariant
  refine ⟨?_, ?_, ?_, ?_, ?_⟩
  · intro first second firstRow secondRow eventId presentFirst presentSecond
    exact accepted.eventUnique presentFirst presentSecond
  · intro id row present
    exact ⟨accepted.accepted id row present, accepted.jobUnique present⟩
  · intro publication member
    obtain ⟨_, _, _, _, _, once⟩ := holds.shared.logged.of_mem member
    exact once.stay
  · intro publication member
    obtain ⟨before, _, request, outcome, isEvent, once⟩ :=
      holds.shared.logged.of_mem member
    refine ⟨request, outcome, isEvent, fun foreign => ?_⟩
    have ⟨eventId, id, row, isForeign, present, rowEvent, _⟩ := foreign
    have nothing : publication.after = publication.before :=
      once.replayed id row present (.inr ⟨eventId, isForeign, rowEvent⟩)
    have answered := once.answered
    rw [nothing] at answered
    exact ⟨nothing, AcceptedReceipts.repeated_of_foreign before answered
      foreign⟩
  · intro owner request outcome ended foreign
    have verified := holds.own owner
    rw [ended] at verified
    obtain ⟨finished, earlier, answered⟩ := verified
    have isAnswered : request.IsAnswered finished := answered
    exact accepted.repeated_of_foreign (isAnswered.stays earlier.advances)
      foreign

/-- A database with two active accounts. -/
def twoAccounts : BotStore :=
  Function.update (Function.update BotStore.initial
    (.account ⟨"first"⟩) (some ⟨.active, some "1", some 0, "vi-VN",
      "Asia/Ho_Chi_Minh", 7, "VND"⟩))
    (.account ⟨"second"⟩) (some ⟨.active, some "2", some 0, "vi-VN",
      "Asia/Ho_Chi_Minh", 7, "VND"⟩)

theorem withoutSubmissions_twoAccounts : WithoutSubmissions twoAccounts where
  submissions _ := rfl
  keys _ := rfl
  jobs _ _ present := by contradiction

/-- An event is accepted for one account and asked for by the other. -/
def foreignRun :
    List (Nat × SessionLabel (Timestamp × AcceptSubmissionRequest)) :=
  List.flatten
    [[(0, .begin (0, ⟨⟨"a"⟩, ⟨"first"⟩, some ⟨"event"⟩, ⟨"job"⟩⟩))],
    .replicate 14 (0, .advance),
    [(1, .begin (0, ⟨⟨"b"⟩, ⟨"second"⟩, some ⟨"event"⟩, ⟨"other"⟩⟩))],
    .replicate 6 (1, .advance)]

theorem acceptance_is_idempotent_foreign :
    ∃ pool, runLabels (poolStep (sessionAct serve))
        (Pool.idle (Database.fresh twoAccounts)) foreignRun = some pool ∧
      pool.tasks 1 = some (.ended (.error (.refused
        (.conflict "inbound event belongs to a different account")))) ∧
      (∃ row, pool.world.store (.submission ⟨"a"⟩) = some row ∧
        row.state = .queued) ∧
      ∀ id row, pool.world.store (.submission id) = some row →
        row.state ≠ .pending ∧ ∃! dedupeKey, ∃ job,
          pool.world.store (.job dedupeKey) = some job ∧ job.Ingests id := by
  refine ⟨_, rfl, rfl, ⟨_, rfl, rfl⟩, ?_⟩
  exact (acceptance_is_idempotent withoutSubmissions_twoAccounts
    (reaches_of_runLabels (permits_anyStep _ foreignRun) rfl)).2.1

end ReceiptAcceptance

end ZaloBot
