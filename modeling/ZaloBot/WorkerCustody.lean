import ZaloBot.CustodyIngestion
import ZaloBot.CustodyRequests

/-!
# Custody under workers

A job stops waiting only when it is completed or cancelled.  It is completed
only after an execution has found that no submission needs it, so in every run
without vain lookups the submissions that wait for a worker have a job that is
queued, leased or dead.
-/

namespace ZaloBot

open Sessions LabelledRuns TaskPool

namespace Jobs

variable {Event : Type} {permitted : Event → Prop} {noCancel : Prop}
variable {store : BotStore} {event : Event} {now : Timestamp}
variable {dedupeKey : String} {job token : Uuid}

/-- No submission needs the job of a key. -/
structure Spare (store : BotStore) (dedupeKey : String) : Prop where
  ingests : ∀ id row, dedupeKey = ingestDedupeKey id →
    store (.submission id) = some row → row.state ≠ .queued
  extracts : ∀ id row, dedupeKey = extractDedupeKey id →
    store (.submission id) = some row → row.state.awaitsExtraction = false

/-- A job may be replaced by one that waits, or if it is spare. -/
theorem tends_job {row changed : JobRow} (holds : Custody noCancel store)
    (present : store (.job dedupeKey) = some row)
    (sameType : changed.jobType = row.jobType)
    (waits : changed.Waits noCancel ∨ Spare store dedupeKey) :
    Tends noCancel store
      (Overlay.none.set (.job dedupeKey) (some changed)) := by
  refine holds.jobChanged present sameType ?_ ?_
    (Overlay.set_view_self _ _ _ _) (sameBut_set _ _)
  · intro id submission isKey found isQueued
    refine waits.resolve_right fun spare => ?_
    exact spare.ingests id submission isKey found isQueued
  · intro id submission isKey found awaits
    refine waits.resolve_right fun spare => ?_
    rw [spare.extracts id submission isKey found] at awaits
    contradiction

/-- An update of one job and its commit. -/
theorem custody_settlement {condition : JobRow → Bool}
    {change : JobRow → JobRow} {lookupFailed commitFailed : ReceiptFailure}
    {rejected : StoreError} (holds : Custody noCancel store)
    (sameType : ∀ row, (change row).jobType = row.jobType)
    (waits : permitted event → ∀ row, condition row = true →
      (change row).Waits noCancel ∨ Spare store dedupeKey) :
    (custodyRules Event permitted noCancel).wp
      (Session.updateRow lookupFailed (BotKey.job dedupeKey) condition change
        >>= fun updated =>
          if updated then Session.commitTransaction commitFailed event
          else Receipts.refuse rejected) Overlay.none store
      fun _ last _ => last = Overlay.none := by
  rw [Discipline.wp_monad_bind]
  refine Discipline.wp_updateRow trivial trivial fun row present meets => ?_
  refine Receipts.wp_commitPermitted (fun isPermitted => ?_) fun _ _ _ => rfl
  exact (tends_job holds present (sameType row)
    (waits isPermitted row meets)).progress

theorem custody_heartbeat {leaseDurationSecs : Int}
    (holds : Custody noCancel store) :
    (custodyRules Event permitted noCancel).wp
      (heartbeat event now dedupeKey job token leaseDurationSecs) Overlay.none
      store fun _ last _ => last = Overlay.none := by
  unfold heartbeat
  split
  · trivial
  refine custody_settlement holds (fun _ => rfl) fun _ row held => Or.inl ?_
  simp only [JobRow.holdsLease, Bool.and_eq_true, decide_eq_true_eq] at held
  have isLeased : row.state = .leased := by simpa using held.2.1.2
  constructor
  · simp [JobRow.markRenewed, isLeased]
  · simp [JobRow.markRenewed, isLeased]

theorem custody_fail {errorClass : ErrorClass}
    (holds : Custody noCancel store) :
    (custodyRules Event permitted noCancel).wp
      (fail event now dedupeKey job token errorClass) Overlay.none store
      fun _ last _ => last = Overlay.none := by
  refine custody_settlement holds (fun row => ?_) fun _ row _ => Or.inl ?_
  · unfold failed
    split <;> rfl
  · unfold failed
    split
    · exact ⟨nofun, nofun⟩
    · exact ⟨nofun, nofun⟩

theorem custody_recoverDead (holds : Custody noCancel store) :
    (custodyRules Event permitted noCancel).wp
      (recoverDead event now dedupeKey job) Overlay.none store
      fun _ last _ => last = Overlay.none :=
  custody_settlement holds (fun _ => rfl)
    fun _ _ _ => Or.inl ⟨nofun, nofun⟩

theorem custody_complete (holds : Custody noCancel store)
    (spare : Spare store dedupeKey) :
    (custodyRules Event permitted noCancel).wp
      (complete event now dedupeKey job token) Overlay.none store
      fun _ last _ => last = Overlay.none :=
  custody_settlement holds (fun _ => rfl) fun _ _ _ => Or.inr spare

/-- Cancelling is permitted unless nothing is cancelled. -/
theorem custody_cancelByOperator (holds : Custody noCancel store)
    (allowed : permitted event → ¬ noCancel) :
    (custodyRules Event permitted noCancel).wp
      (cancelByOperator event now dedupeKey job) Overlay.none store
      fun _ last _ => last = Overlay.none := by
  unfold cancelByOperator
  rw [Discipline.wp_monad_bind]
  refine Discipline.wp_selectForUpdate trivial trivial fun row present _ => ?_
  dsimp only
  split
  case isFalse => trivial
  refine Receipts.wp_commitPermitted (fun isPermitted => ?_) fun _ _ _ => rfl
  have changed : (cancelled now row).jobType = row.jobType ∧
      (cancelled now row).state = .cancelled := by
    unfold cancelled
    split <;> exact ⟨rfl, rfl⟩
  refine (tends_job holds present changed.1 (Or.inl ⟨?_, ?_⟩)).progress
  · simp [changed.2]
  · exact fun never => absurd never (allowed isPermitted)

/-- Receipt jobs have the type that their key says. -/
def Genuine (job : ClaimedJob) : Prop :=
  ∀ id, (job.dedupeKey = ingestDedupeKey id → job.jobType = jobTypeIngest) ∧
    (job.dedupeKey = extractDedupeKey id → job.jobType = jobTypeExtract)

theorem genuine_claimedJob {options : ClaimOptions} {row : JobRow}
    (holds : Custody noCancel store)
    (present : store (.job dedupeKey) = some row)
    (isKey : row.dedupeKey = dedupeKey) :
    Genuine (claimedJob now options token row) := by
  subst isKey
  refine fun id => ⟨fun isIngest => ?_, fun isExtract => ?_⟩
  · change row.dedupeKey = ingestDedupeKey id at isIngest
    rw [isIngest] at present
    exact (holds.ingestJobs id row present).1
  · change row.dedupeKey = extractDedupeKey id at isExtract
    rw [isExtract] at present
    exact (holds.extractJobs id row present).1

theorem custody_claim {options : ClaimOptions} {candidate : Option String}
    (holds : Custody noCancel store) :
    (custodyRules Event permitted noCancel).wp
      (claim event now options token candidate) Overlay.none store
      fun claimed last _ => last = Overlay.none ∧
        ∀ job ∈ claimed, Genuine job := by
  have commits (claimed : Option ClaimedJob) (last : Overlay BotRow)
      (tends : Tends noCancel store last)
      (genuine : ∀ job ∈ claimed, Genuine job) :
      (custodyRules Event permitted noCancel).wp
        (Session.commitTransaction (.dependency "claim commit failed") event
          >>= fun _ => pure claimed) last store
        fun claimed last _ => last = Overlay.none ∧
          ∀ job ∈ claimed, Genuine job := by
    rw [Discipline.wp_monad_bind]
    exact Receipts.wp_commitCustody tends.progress
      fun _ _ _ => ⟨rfl, genuine⟩
  unfold claim
  split
  · trivial
  split
  · trivial
  split
  · trivial
  cases candidate with
  | none => exact commits none Overlay.none (.refl holds) (by rintro _ ⟨⟩)
  | some dedupeKey =>
      dsimp only
      rw [Discipline.wp_monad_bind]
      refine Discipline.wp_selectForUpdate trivial
        (commits none Overlay.none (.refl holds) (by rintro _ ⟨⟩))
        fun row present selected => ?_
      simp only [Bool.and_eq_true, decide_eq_true_eq] at selected
      dsimp only
      rw [Discipline.wp_monad_bind]
      unfold claimCandidate
      split
      · exact commits none _ (tends_job holds present rfl
          (Or.inl ⟨by rintro ⟨⟩, by rintro _ ⟨⟩⟩)) (by rintro _ ⟨⟩)
      · refine commits _ _ (tends_job holds present rfl
          (Or.inl ⟨by rintro ⟨⟩, by rintro _ ⟨⟩⟩)) ?_
        rintro job ⟨⟩
        exact genuine_claimedJob holds present selected.1

end Jobs

namespace Workers

open Receipts

variable {noCancel : Prop}

/-- Everything is permitted, except cancellations if nothing is cancelled. -/
def mayPublish (noCancel : Prop) (event : LeasedEvent) : Prop :=
  noCancel → event.event ≠ .cancel

/-- The discipline of custody for everything that runs. -/
abbrev workerRules (noCancel : Prop) :
    Discipline BotRow LeasedEvent ReceiptFailure :=
  custodyRules LeasedEvent (mayPublish noCancel) noCancel

/-- No submission will need the job again. -/
structure NeededNoMore (job : ClaimedJob) (store : BotStore) : Prop where
  ingested : ∀ id, job.dedupeKey = ingestDedupeKey id →
    HasBeen ReceiptState.isPastIngest store id
  extracted : ∀ id, job.dedupeKey = extractDedupeKey id →
    HasBeen ReceiptState.isPastExtraction store id

theorem NeededNoMore.spare {job : ClaimedJob} {store : BotStore}
    (settled : NeededNoMore job store) (holds : Custody noCancel store) :
    Jobs.Spare store job.dedupeKey where
  ingests id _ isKey present := holds.not_queued (settled.ingested id isKey)
    present
  extracts id _ isKey present :=
    holds.not_awaiting (settled.extracted id isKey) present

theorem neededNoMore_ingest {job : ClaimedJob} {store : BotStore}
    {submissionId : Uuid} (key : job.dedupeKey = ingestDedupeKey submissionId)
    (past : HasBeen ReceiptState.isPastIngest store submissionId) :
    NeededNoMore job store where
  ingested id isKey := by
    rw [key] at isKey
    exact ingestDedupeKey_inj isKey ▸ past
  extracted id isKey := by
    rw [key] at isKey
    exact absurd isKey ingestDedupeKey_ne

theorem neededNoMore_extract {job : ClaimedJob} {store : BotStore}
    {submissionId : Uuid}
    (key : job.dedupeKey = extractDedupeKey submissionId)
    (past : HasBeen ReceiptState.isPastExtraction store submissionId) :
    NeededNoMore job store where
  ingested id isKey := by
    rw [key] at isKey
    exact absurd isKey.symm ingestDedupeKey_ne
  extracted id isKey := by
    rw [key] at isKey
    exact extractDedupeKey_inj isKey ▸ past

/-- Messages are not in custody. -/
theorem messages_outsideCustody :
    Followups.MessageRows fun key _ => ¬ key.InCustody where
  counter _ _ _ _ _ := not_false
  outbound _ _ := not_false
  delivery idempotencyKey _ := by
    rintro ⟨id, isKey | isKey⟩
    · exact absurd isKey (append_ne_append 0 (by decide) (by decide)
        (by decide) idempotencyKey id.text)
    · exact absurd isKey (append_ne_append 0 (by decide) (by decide)
        (by decide) idempotencyKey id.text)
  conversation _ _ := not_false

theorem indifferent_workerRules :
    Indifferent (workerRules noCancel) fun key => ¬ key.InCustody where
  guarantees _ _ _ holds same :=
    (Custody.undisturbed holds fun key inCustody _ =>
      same key (not_not.mpr inCustody)).progress
  refuses _ _ _ := trivial

/-- An operation that keeps custody and knows something when it ends. -/
theorem triple_onReceipts {Value : Type} {operation : Operation Value}
    {job : ClaimedJob} {pre : BotStore → Prop}
    {post : Value → BotStore → Prop}
    (verified : ∀ store, Custody noCancel store →
      (custodyRules ReceiptEvent (fun event => mayPublish noCancel
        (leased job (.receipt event))) noCancel).wp operation Overlay.none
        store fun value last later => last = Overlay.none ∧ post value later) :
    (workerRules noCancel).Triple .free pre (onReceipts job operation).attempt
      fun outcome store => ∀ value, outcome = .ok value → post value store := by
  have keeps : ((workerRules noCancel).withRefusal fun _ _ => True).Triple
      .free pre (onReceipts job operation) post :=
    .mapEvent (.of_wp fun store holds _ => verified store holds)
  exact keeps.attempt

/-- A call on jobs that keeps custody. -/
theorem triple_onJobs {call : Work Unit} {pre : BotStore → Prop}
    (verified : ∀ store, Custody noCancel store → pre store →
      (workerRules noCancel).wp call Overlay.none store
        fun _ last _ => last = Overlay.none) :
    (workerRules noCancel).Triple .free pre call fun _ _ => True :=
  .of_wp fun store holds given => Discipline.wp_mono
    (fun _ _ _ nothing => ⟨nothing, trivial⟩) (verified store holds given)

theorem triple_attemptOnJobs {call : Work Unit} {pre : BotStore → Prop}
    (verified : ∀ store, Custody noCancel store → pre store →
      (workerRules noCancel).wp call Overlay.none store
        fun _ last _ => last = Overlay.none) :
    (workerRules noCancel).Triple .free pre call.attempt fun _ _ => True := by
  have keeps : ((workerRules noCancel).withRefusal fun _ _ => True).Triple
      .free pre call fun _ _ => True :=
    triple_onJobs verified
  exact keeps.attempt.consequence (fun _ _ => id) fun _ _ _ _ => trivial

theorem triple_ingest {job : ClaimedJob} {environment : IngestEnvironment}
    {accountId submissionId : Uuid} {bytes : List UInt8} {mimeType : String}
    {extractJobId : Uuid}
    (key : job.dedupeKey = ingestDedupeKey submissionId) :
    (workerRules noCancel).Triple (lookupPolicy LeasedEvent ReceiptFailure)
      (Owns submissionId accountId)
      (onReceipts job (ingest environment accountId submissionId bytes
        mimeType extractJobId)).attempt
      fun outcome store => ∀ value, outcome = .ok value →
        NeededNoMore job store := by
  intro floor store holds since owns
  have verified : (custodyRules ReceiptEvent (fun event => mayPublish noCancel
      (leased job (.receipt event))) noCancel).wpSince
      (fun session store => ¬ LooksUpInVain (session.mapEvent fun event =>
        leased job (.receipt event)).attempt store) floor
      (ingest environment accountId submissionId bytes mimeType extractJobId)
      Overlay.none store _ :=
    custody_ingest (fun _ _ sees looks => sees looks.mapEvent.attempt) holds
  have known : ((workerRules noCancel).withRefusal fun _ _ => True).wpSince
      (fun session store => ¬ LooksUpInVain session.attempt store) floor
      (onReceipts job (ingest environment accountId submissionId bytes
        mimeType extractJobId)) Overlay.none store
      fun _ _ last later => last = Overlay.none ∧ NeededNoMore job later := by
    refine Discipline.wpSince_mapEvent.mpr (Discipline.wpSince_mono
      (fun _ _ => id) ?_ (Discipline.wpSince_tracks holds since verified))
    rintro outcome _ last later ⟨isLater, _, nothing, known⟩
    refine ⟨nothing, neededNoMore_ingest key ?_⟩
    cases outcome with
    | stored id contentSha256 => exact known.2.pastIngest
    | alreadyStored id => exact known.2.pastIngest
    | duplicateAbsorbed id original =>
        obtain ⟨row, present, _, member, _⟩ := known.2.1
        exact ⟨row, present, .failedPermanent, member, rfl⟩
    | alreadyTerminal state =>
        exact known (owns.advances isLater.advances)
  exact Discipline.wpSince_attempt (fun _ _ _ (_ : True) _ => ⟨rfl, nofun⟩)
    (Discipline.wpSince_mono (fun _ _ => id) (fun _ _ _ _ facts =>
      ⟨facts.1, fun _ _ => facts.2⟩) known)

theorem custody_executes :
    ExecutionRules (workerRules noCancel)
      (lookupPolicy LeasedEvent ReceiptFailure) Jobs.Genuine Owns
      NeededNoMore where
  starts _ ordinary := ordinary
  claim _ := .of_wp fun _ holds _ => Jobs.custody_claim holds
  routes _ _ _ row earlier present :=
    Owns.advances ⟨row, present, rfl⟩ earlier.advances
  failQueued _ _ _ _ _ _ :=
    (triple_onReceipts fun _ holds => Discipline.wp_mono
      (fun _ _ _ nothing => ⟨nothing, trivial⟩)
      (custody_failQueued holds)).consequence (fun _ _ => id)
        fun _ _ _ _ => trivial
  ingest _ _ _ _ _ _ _ key := triple_ingest key
  extract _ _ _ _ _ key :=
    (triple_onReceipts fun _ holds => custody_extract holds).consequence
      (fun _ _ => id) fun _ _ _ known value isValue supported =>
        neededNoMore_extract key (known value isValue supported)
  followup behaves := indifferent_workerRules.tripleAttempt
    (behaves _ messages_outsideCustody)
  other _ _ _ genuine notIngest notExtract :=
    ⟨fun id isKey => absurd ((genuine id).1 isKey) notIngest,
      fun id isKey => absurd ((genuine id).2 isKey) notExtract⟩
  stable _ _ _ settled isLater :=
    ⟨fun id isKey => (settled.ingested id isKey).advances isLater.advances,
      fun id isKey => (settled.extracted id isKey).advances isLater.advances⟩
  fail _ _ _ := triple_attemptOnJobs fun _ holds _ => Jobs.custody_fail holds
  complete _ _ := triple_attemptOnJobs fun _ holds settled =>
    Jobs.custody_complete holds (settled.spare holds)

/-- What the calls of an ingestion return. -/
def ingestReturns (response : WorkerResponse) (store : BotStore) : Prop :=
  ∀ environment accountId submissionId bytes mimeType extractJobId outcome,
    response = .receipt (.ingest environment accountId submissionId bytes
      mimeType extractJobId) (.ingested outcome) →
    IngestKnown (HashOf environment bytes mimeType) accountId submissionId
      outcome store

/-- A call of the receipt lifecycle that is no ingestion. -/
theorem custody_otherCall {Value : Type} {operation : Operation Value}
    {respond : Value → ReceiptResponse} {request : ReceiptRequest}
    (session : ReceiptMachine.serve request = operation >>= fun value =>
      pure (respond value))
    (silent : ∀ value outcome, respond value ≠ .ingested outcome)
    (verified : ∀ store, Custody noCancel store →
      (custodyRules ReceiptEvent (fun event => mayPublish noCancel
        ⟨none, .receipt event⟩) noCancel).wp operation Overlay.none store
        fun _ last _ => last = Overlay.none)
    (floor store : BotStore) (holds : Custody noCancel store) :
    (workerRules noCancel).wpSince
      (lookupPolicy LeasedEvent ReceiptFailure).observes floor
      (serve (.receipt request)) Overlay.none store
      fun response _ _ later => ingestReturns response later := by
  unfold serve
  dsimp only
  rw [session]
  refine Discipline.wpSince_of_wp ?_
  rw [Discipline.wp_monad_bind, Discipline.wp_mapEvent]
  have called : (custodyRules ReceiptEvent (fun event => mayPublish noCancel
      ⟨none, .receipt event⟩) noCancel).wp (operation >>= fun value =>
        pure (respond value)) Overlay.none store
      fun response _ _ => ∀ outcome, response ≠ .ingested outcome := by
    rw [Discipline.wp_monad_bind]
    exact Discipline.wp_mono (fun value _ _ _ => silent value)
      (verified store holds)
  refine Discipline.wp_mono ?_ called
  rintro response _ later notIngested _ _ _ _ _ _ outcome ⟨⟩
  exact absurd rfl (notIngested outcome)

theorem custody_ingestCall {environment : IngestEnvironment}
    {accountId submissionId : Uuid} {bytes : List UInt8} {mimeType : String}
    {extractJobId : Uuid} (floor store : BotStore)
    (holds : Custody noCancel store) :
    (workerRules noCancel).wpSince
      (lookupPolicy LeasedEvent ReceiptFailure).observes floor
      (serve (.receipt (.ingest environment accountId submissionId bytes
        mimeType extractJobId))) Overlay.none store
      fun response _ _ later => ingestReturns response later := by
  unfold serve
  rw [Discipline.wpSince_bind, Discipline.wpSince_mapEvent]
  unfold ReceiptMachine.serve
  rw [Discipline.wpSince_bind]
  refine Discipline.wpSince_mono (fun _ _ => id) ?_ (custody_ingest
    (fun _ _ sees looks => sees (((looks.bind fun _ => rfl).mapEvent).bind
      fun _ => rfl)) holds)
  rintro outcome _ last later ⟨_, known⟩ _ _ _ _ _ _ _ ⟨⟩
  exact known

theorem custody_receipts :
    (workerRules noCancel).VerifiesAll
      (lookupPolicy LeasedEvent ReceiptFailure).observes
      (fun request => serve (.receipt request)) ingestReturns := by
  intro request floor store holds _
  cases request with
  | accept now request =>
      exact custody_otherCall rfl nofun
        (fun _ holds => custody_acceptSubmission holds) floor store holds
  | failQueued now submissionId accountId errorClass =>
      exact custody_otherCall rfl nofun
        (fun _ holds => custody_failQueued holds) floor store holds
  | ingest environment accountId submissionId bytes mimeType extractJobId =>
      exact custody_ingestCall floor store holds
  | extract config environment accountId submissionId =>
      exact custody_otherCall rfl nofun (fun _ holds => Discipline.wp_mono
        (fun _ _ _ facts => facts.1) (custody_extract holds)) floor store holds
  | edit toRfc3339 request =>
      exact custody_otherCall rfl nofun
        (fun _ holds => custody_editDraft holds) floor store holds
  | confirm now request =>
      exact custody_otherCall rfl nofun
        (fun _ holds => custody_confirm holds) floor store holds
  | reject now request =>
      exact custody_otherCall rfl nofun
        (fun _ holds => custody_reject holds) floor store holds
  | expireReviews now batchLimit candidates =>
      exact custody_otherCall rfl nofun
        (fun _ holds => custody_expireReviews holds) floor store holds
  | deleteOriginal now objectStoreError accountId submissionId =>
      exact custody_otherCall rfl nofun
        (fun _ holds => custody_deleteOriginal holds) floor store holds
  | retentionSweep now objectStoreError batchLimit candidates =>
      exact custody_otherCall rfl nofun
        (fun _ holds => custody_retentionSweep holds) floor store holds
  | recategorizeLatest latest accountId categoryKey =>
      exact custody_otherCall rfl nofun
        (fun _ holds => custody_recategorizeLatest holds) floor store holds

/-- Everything that runs keeps custody. -/
theorem custody_verifiesAll :
    (workerRules noCancel).VerifiesAll
      (lookupPolicy LeasedEvent ReceiptFailure).observes serve
      ingestReturns := by
  have serves : ServiceRules (workerRules noCancel)
      (lookupPolicy LeasedEvent ReceiptFailure) ingestReturns :=
    { receipt := custody_receipts
      heartbeat := fun _ _ _ _ _ => triple_onJobs fun _ holds _ =>
        Jobs.custody_heartbeat holds
      shutdown := fun _ _ _ _ => triple_onJobs fun _ holds _ =>
        Jobs.custody_fail holds
      recoverDead := fun _ _ _ => triple_onJobs fun _ holds _ =>
        Jobs.custody_recoverDead holds
      cancel := fun _ _ _ => triple_onJobs fun _ holds _ =>
        Jobs.custody_cancelByOperator holds fun may never => may never rfl }
  refine serves.verifiesAll custody_executes ?_ ?_
  · rintro executed store _ _ _ _ _ _ _ ⟨⟩
  · rintro store _ _ _ _ _ _ _ ⟨⟩

end Workers

end ZaloBot
