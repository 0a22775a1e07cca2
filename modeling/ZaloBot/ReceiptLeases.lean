import ZaloBot.CustodyOperations
import ZaloBot.WorkerLeases
import ZaloBot.WorkerReceipts

/-!
# Leases of extractions

The extraction of a receipt runs under the lease of its job, but writes its
results under the state of the submission alone.  Any number of workers claim
the job, lose it, and go on.  An execution that no longer holds the lease
changes nothing as long as no lease is lost before the extraction under it is
over.
-/

namespace ZaloBot

open Sessions LabelledRuns TaskPool

namespace ReceiptLeases

open Receipts Workers

/-- The states in which the transactions of an extraction change the
submission. -/
def actsOn : ReceiptEvent → ReceiptState → Bool
  | .claimExtracting, .stored => true
  | .claimExtracting, .failedTransient => true
  | .extractionSuccess, .extracting => true
  | .extractionFailure, .extracting => true
  | _, _ => false

/-- A publication that leaves a submission and its draft alone. -/
def Leaves (submissionId : Uuid) (before after : BotStore) : Prop :=
  after (.submission submissionId) = before (.submission submissionId) ∧
    after (.draft submissionId) = before (.draft submissionId)

/-- An execution changes its submission only in the states its transactions
act on. -/
def actsOnly (before : BotStore) (event : LeasedEvent) (after : BotStore) :
    Prop :=
  ∀ submissionId token, event.lease = some (extractDedupeKey submissionId,
      token) →
    Leaves submissionId before after ∨
    ∃ receiptEvent row, event.event = .receipt receiptEvent ∧
      before (.submission submissionId) = some row ∧
      actsOn receiptEvent row.state = true

/-- What executions guarantee about the submissions of their jobs. -/
def leaseRules : Discipline BotRow LeasedEvent ReceiptFailure where
  invariant _ := True
  advances _ _ := True
  permitted _ _ := True
  guarantee := actsOnly
  refusal _ _ := True
  advances_refl _ := trivial
  advances_trans _ _ := trivial
  keeps _ _ := ⟨trivial, trivial⟩

/-- Rows that are neither submissions nor drafts. -/
def besidesReceipts (key : BotKey) : Prop :=
  match key with
  | .submission _ => False
  | .draft _ => False
  | _ => True

/-- What the operations of an extraction need of a discipline. -/
structure Tolerates (rules : Discipline BotRow ReceiptEvent ReceiptFailure)
    (submissionId : Uuid) : Prop where
  invariant : ∀ store, rules.invariant store
  refuses : ∀ error store, rules.refusal error store
  quiet : ∀ before event after,
    (∀ key, ¬ besidesReceipts key → after key = before key) →
      rules.guarantee before event after
  acting : ∀ before event after row,
    before (.submission submissionId) = some row →
    actsOn event row.state = true → rules.guarantee before event after

section Extraction

variable {rules : Discipline BotRow ReceiptEvent ReceiptFailure}
variable {submissionId accountId : Uuid} {own : Overlay BotRow}
variable {store : BotStore} {now : Timestamp} {Value Other : Type}

/-- After a part of a transaction, whatever it has written. -/
theorem wp_part {part : Operation Value} {fails : ReceiptFailure → Prop}
    {post : Value → Overlay BotRow → BotStore → Prop}
    (tolerates : Tolerates rules submissionId)
    (within : part.WritesWithin (fun _ => True) fails)
    (after : ∀ value last, post value last store) :
    rules.wp part own store post := by
  refine Discipline.wp_mono ?_ (Discipline.wp_frame
    (fun error _ => tolerates.refuses error store) within)
  rintro value last final ⟨rfl, _⟩
  exact after value last

/-- The commit of a transaction that acts on the state it has found. -/
theorem wp_commit_acting {event : ReceiptEvent} {row : SubmissionRow}
    (value : Value) (tolerates : Tolerates rules submissionId)
    (present : store (.submission submissionId) = some row)
    (acts : actsOn event row.state = true) :
    rules.wp (commit event >>= fun _ => pure value : Operation Value) own
      store fun _ last _ => last = Overlay.none := by
  rw [Discipline.wp_monad_bind]
  refine Discipline.wp_commitTransaction
    (fun _ => tolerates.refuses _ _) fun _ => ⟨?_, fun _ _ => rfl⟩
  exact tolerates.acting store event _ row present acts

/-- The commit of a transaction that has written nothing. -/
theorem wp_commit_idle {event : ReceiptEvent} {value : Value}
    (tolerates : Tolerates rules submissionId) :
    rules.wp (commit event >>= fun _ => pure value : Operation Value)
      Overlay.none store fun _ last _ => last = Overlay.none := by
  rw [Discipline.wp_monad_bind]
  refine Discipline.wp_commitTransaction
    (fun _ => tolerates.refuses _ _) fun _ => ⟨?_, fun _ _ => rfl⟩
  exact tolerates.quiet store event _ fun _ _ => rfl

theorem wp_claimExtracting (tolerates : Tolerates rules submissionId) :
    rules.wp (claimExtracting now accountId submissionId) Overlay.none store
      fun _ last _ => last = Overlay.none := by
  unfold claimExtracting
  rw [Discipline.wp_monad_bind]
  refine wp_loadSubmissionForUpdate (tolerates.refuses _ _)
    (tolerates.refuses _ _) fun row present _ => ?_
  split
  · exact wp_commit_idle tolerates
  split
  · exact wp_commit_idle tolerates
  split
  · rename_i claimable
    rw [Discipline.wp_monad_bind]
    refine wp_part tolerates (writesWithin_transitionState trivial) fun _ last => ?_
    refine wp_commit_acting _ tolerates present ?_
    rcases claimable with isStored | isFailed
    · rw [isStored]
      rfl
    · rw [isFailed]
      rfl
  split
  · exact wp_commit_idle tolerates
  · exact tolerates.refuses _ _

theorem wp_persistExtractionSuccess {config : ReceiptConfig} {draftId : Uuid}
    {extraction : ExtractionResult}
    (tolerates : Tolerates rules submissionId) :
    rules.wp (persistExtractionSuccess config now draftId accountId
      submissionId extraction) Overlay.none store
        fun _ last _ => last = Overlay.none := by
  unfold persistExtractionSuccess
  rw [Discipline.wp_monad_bind]
  refine wp_loadSubmissionForUpdate (tolerates.refuses _ _)
    (tolerates.refuses _ _) fun row present _ => ?_
  split
  · exact wp_commit_idle tolerates
  split
  · exact fun _ _ => rfl
  split
  · exact fun _ _ => tolerates.refuses _ _
  rename_i extracting
  rw [Discipline.wp_monad_bind]
  refine wp_part tolerates (within_query _ _)
    fun attempts last => ?_
  rw [Discipline.wp_monad_bind]
  refine wp_part tolerates (within_recordExtractionAttempt trivial) fun _ last => ?_
  rw [Discipline.wp_monad_bind]
  refine wp_part tolerates (within_upsertDraft trivial) fun _ last => ?_
  rw [Discipline.wp_monad_bind]
  refine wp_part tolerates (writesWithin_transitionState trivial) fun _ last => ?_
  refine wp_commit_acting _ tolerates present ?_
  rw [not_not.mp extracting]
  rfl

theorem wp_persistExtractionFailure {errorClass : ErrorClass}
    {terminalState : ReceiptState}
    (tolerates : Tolerates rules submissionId) :
    rules.wp (persistExtractionFailure now accountId submissionId errorClass
      terminalState) Overlay.none store
        fun _ last _ => last = Overlay.none := by
  unfold persistExtractionFailure
  rw [Discipline.wp_monad_bind]
  refine wp_loadSubmissionForUpdate (tolerates.refuses _ _)
    (tolerates.refuses _ _) fun row present _ => ?_
  split
  · exact fun _ _ => rfl
  rename_i extracting
  rw [Discipline.wp_monad_bind]
  refine wp_part tolerates (within_query _ _)
    fun attempts last => ?_
  rw [Discipline.wp_monad_bind]
  refine wp_part tolerates (within_recordExtractionAttempt trivial) fun _ last => ?_
  rw [Discipline.wp_monad_bind]
  refine wp_part tolerates (writesWithin_transitionState trivial) fun _ last => ?_
  refine wp_commit_acting () tolerates present ?_
  rw [not_not.mp extracting]
  rfl

/-- Parts of an extraction that touch no receipt. -/
theorem wp_besides {part : Operation Value}
    {post : Value → Overlay BotRow → Prop}
    (tolerates : Tolerates rules submissionId)
    (behaves : part.Behaves (fun key _ => besidesReceipts key)
      (fun _ key _ => besidesReceipts key) Overlay.none post) :
    rules.wp part Overlay.none store fun value last _ => post value last :=
  Discipline.wp_mono (fun _ _ _ facts => facts.1)
    (Discipline.wp_of_behaves
      (fun before event after _ => tolerates.quiet before event after)
      (fun error store _ => tolerates.refuses error store)
      (tolerates.invariant store) behaves fun _ _ => rfl)

theorem wp_extractClaimed {config : ReceiptConfig}
    {environment : ExtractEnvironment}
    (tolerates : Tolerates rules submissionId) :
    rules.wp (extractClaimed config environment accountId submissionId)
      Overlay.none store fun _ last _ => last = Overlay.none := by
  unfold extractClaimed
  rw [Discipline.wp_monad_bind]
  have reads : (readAndExtract environment accountId
      submissionId).attempt.Behaves (fun key _ => besidesReceipts key)
        (fun _ key _ => besidesReceipts key) Overlay.none
        fun _ last => last = Overlay.none :=
    .attempt within_readAndExtract.behaves_same fun _ => rfl
  refine Discipline.wp_mono ?_ (wp_besides tolerates reads)
  rintro extracted last later rfl
  cases extracted with
  | error error =>
      dsimp only
      rw [Discipline.wp_monad_bind]
      exact Discipline.wp_mono (fun _ _ _ _ => tolerates.refuses _ _)
        (wp_persistExtractionFailure tolerates)
  | ok extraction =>
      dsimp only
      split
      · rw [Discipline.wp_monad_bind]
        exact wp_persistExtractionFailure tolerates
      · exact wp_persistExtractionSuccess tolerates

theorem wp_extract {config : ReceiptConfig}
    {environment : ExtractEnvironment}
    (tolerates : Tolerates rules submissionId) :
    rules.wp (extract config environment accountId submissionId)
      Overlay.none store fun _ last _ => last = Overlay.none := by
  unfold extract
  rw [Discipline.wp_monad_bind]
  refine Discipline.wp_mono ?_ (wp_claimExtracting tolerates)
  rintro claimed last later rfl
  cases claimed with
  | some outcome => rfl
  | none =>
      dsimp only
      rw [Discipline.wp_monad_bind]
      refine Discipline.wp_query (tolerates.refuses _ _) fun older _ => ?_
      split
      case isFalse => rfl
      split
      case isFalse =>
        rw [Discipline.wp_monad_bind]
        exact Discipline.wp_mono (fun _ _ _ _ => tolerates.refuses _ _)
          (wp_persistExtractionFailure tolerates)
      have counts : (UsageQuota.incrementInTransaction
          (.dependency "quota increment failed") UsageQuota.scopeGlobal
          UsageQuota.globalScopeId environment.period
          UsageQuota.metricExtractionPages
          (UsageQuota.storedLimit config.monthlyExtractionPages) :
            Operation UsageCounterRow).Behaves
          (fun key _ => besidesReceipts key)
          (fun _ key _ => besidesReceipts key) Overlay.none
          fun _ _ => True :=
        ⟨fun _ => ⟨trivial, trivial⟩, trivial⟩
      rw [Discipline.wp_monad_bind]
      refine Discipline.wp_mono ?_ (Discipline.wp_of_behaves
        (fun before event after _ => tolerates.quiet before event after)
        (fun error store _ => tolerates.refuses error store)
        (tolerates.invariant _) counts fun _ _ => rfl)
      rintro counter last final ⟨_, unwritten⟩
      rw [Discipline.wp_monad_bind]
      refine Discipline.wp_commitTransaction
        (fun _ => tolerates.refuses _ _) fun _ => ⟨?_, fun _ _ => ?_⟩
      · refine tolerates.quiet final _ _ fun key forbidden => ?_
        simp [Overlay.view, unwritten key forbidden]
      split
      · rw [Discipline.wp_monad_bind]
        exact Discipline.wp_mono (fun _ _ _ _ => tolerates.refuses _ _)
          (wp_persistExtractionFailure tolerates)
      · exact wp_extractClaimed tolerates

end Extraction

section Ingests

variable {submissionId accountId : Uuid} {own : Overlay BotRow}
variable {now : Timestamp} {Value : Type}

/-- An operation that leaves nothing uncommitted. -/
abbrev EndsClean (operation : Operation Value) : Prop :=
  operation.Behaves (fun _ _ => True) (fun _ _ _ => True) Overlay.none
    fun _ last => last = Overlay.none

/-- A transaction that commits in the end. -/
theorem behaves_commit_clean {event : ReceiptEvent} {value : Value} :
    (commit event >>= fun _ => pure value : Operation Value).Behaves
      (fun _ _ => True) (fun _ _ _ => True) own
        fun _ last => last = Overlay.none :=
  ⟨rfl, trivial⟩

theorem endsClean_failQueued {errorClass : ErrorClass} :
    EndsClean (failQueued now submissionId accountId errorClass) := by
  refine .andThen Session.behaves_any fun current _ => ?_
  split
  · exact ⟨rfl, trivial⟩
  split
  · trivial
  · exact .andThen Session.behaves_any fun _ _ => ⟨rfl, trivial⟩

theorem behaves_absorbDuplicate_clean {originalSubmissionId : Uuid} :
    (absorbDuplicate now submissionId accountId
      originalSubmissionId).Behaves (fun _ _ => True) (fun _ _ _ => True) own
        fun _ last => last = Overlay.none := by
  refine .andThen Session.behaves_any fun current _ => ?_
  split
  · exact ⟨rfl, trivial⟩
  · exact .andThen Session.behaves_any fun _ _ => ⟨rfl, trivial⟩

theorem endsClean_persistStoredIngest {environment : IngestEnvironment}
    {objectKey : String} {validated : ValidatedImage} {extractJobId : Uuid} :
    EndsClean (persistStoredIngest environment accountId submissionId
      objectKey validated extractJobId) := by
  refine .andThen Session.behaves_any fun current _ => ?_
  split
  · exact behaves_commit_clean
  split
  · rfl
  split
  · trivial
  refine .andThen Session.behaves_any fun _ _ => ?_
  refine .andThen Session.behaves_any fun insertion _ => ?_
  cases insertion with
  | inserted =>
      exact .andThen Session.behaves_any fun _ _ => behaves_commit_clean
  | uniqueConflict =>
      change Session.Behaves _ _ (findActiveDuplicate _ _ >>= _) _ _
      refine .bind (within_query _ _).behaves_same fun original _ same => ?_
      split
      · exact .bind behaves_absorbDuplicate_clean fun _ _ nothing => nothing
      · exact same

theorem endsClean_compensateOrphanObject {environment : IngestEnvironment}
    {objectKey : String} :
    EndsClean (compensateOrphanObject environment accountId submissionId
      objectKey) := by
  have looks : EndsClean (loadAsset submissionId accountId).attempt :=
    .attempt (within_query _ _).behaves_same fun _ => rfl
  have deletes : EndsClean
      (deleteObject environment.objectStoreError objectKey).attempt :=
    ⟨trivial, rfl, rfl⟩
  refine .bind looks fun asset last nothing => ?_
  subst nothing
  split
  · rfl
  · exact .bind deletes fun _ _ nothing => nothing

theorem endsClean_ingest {environment : IngestEnvironment}
    {bytes : List UInt8} {mimeType : String} {extractJobId : Uuid} :
    EndsClean (ingest environment accountId submissionId bytes mimeType
      extractJobId) := by
  refine .bind (within_query _ _).behaves_same fun active _ same => ?_
  subst same
  split
  case isFalse => rfl
  refine .bind within_loadSubmission.behaves_same fun row _ same => ?_
  subst same
  refine .bind (within_query _ _).behaves_same fun asset _ same => ?_
  subst same
  split
  · rfl
  split
  · rfl
  split
  · trivial
  split
  · exact .andThen Session.behaves_any fun _ _ => trivial
  refine .bind (within_query _ _).behaves_same fun original _ same => ?_
  subst same
  split
  · exact .bind behaves_absorbDuplicate_clean fun _ _ nothing => nothing
  have puts : EndsClean (putObject environment.objectStoreError
      (receiptObjectKey accountId submissionId ‹ValidatedImage›.contentSha256)
      bytes) :=
    ⟨trivial, rfl, trivial⟩
  refine .bind puts fun _ last nothing => ?_
  subst nothing
  have persists : EndsClean (persistStoredIngest environment accountId
      submissionId (receiptObjectKey accountId submissionId
        ‹ValidatedImage›.contentSha256) ‹ValidatedImage›
      extractJobId).attempt :=
    .attempt endsClean_persistStoredIngest fun _ => rfl
  refine .bind persists fun persist last nothing => ?_
  subst nothing
  split
  · rfl
  · rfl
  · exact .bind endsClean_compensateOrphanObject fun _ _ nothing => nothing
  · exact .bind endsClean_compensateOrphanObject fun _ _ _ => trivial

end Ingests

section Executions

variable {submissionId accountId : Uuid} {store : BotStore} {Value : Type}
variable {environment : WorkEnvironment} {job : ClaimedJob}

/-- Publications that leave submissions and drafts alone. -/
theorem actsOnly_of_besides {before after : BotStore} {event : LeasedEvent}
    (same : ∀ key, ¬ besidesReceipts key → after key = before key) :
    actsOnly before event after :=
  fun _ _ _ => Or.inl ⟨same _ id, same _ id⟩

/-- The rules of leases are about submissions and drafts only. -/
theorem indifferent_leaseRules : Indifferent leaseRules besidesReceipts :=
  ⟨fun _ _ _ _ => actsOnly_of_besides, fun _ _ _ => trivial⟩

/-- A call of the receipt lifecycle by an execution that is not an
extraction. -/
theorem wp_onReceipts_ingest {operation : Operation Value}
    (key : job.dedupeKey = ingestDedupeKey submissionId)
    (clean : EndsClean operation) :
    leaseRules.wp (onReceipts job operation).attempt Overlay.none store
      fun _ last _ => last = Overlay.none := by
  rw [Discipline.wp_attempt, onReceipts, Discipline.wp_mapEvent]
  refine Discipline.wp_mono (fun _ _ _ facts => facts.1)
    (Discipline.wp_of_behaves ?_ (fun _ _ _ _ _ => rfl) trivial clean
      fun _ _ => rfl)
  intro before event after _ _ otherId token sameLease
  have sameKey : job.dedupeKey = extractDedupeKey otherId :=
    congrArg Prod.fst (Option.some.inj sameLease)
  exact absurd (key.symm.trans sameKey) ingestDedupeKey_ne

/-- The extraction of an execution. -/
theorem wp_onReceipts_extract {config : ReceiptConfig}
    {extraction : ExtractEnvironment}
    (key : job.dedupeKey = extractDedupeKey submissionId) :
    leaseRules.wp (onReceipts job (extract config extraction accountId
      submissionId)).attempt Overlay.none store
        fun _ last _ => last = Overlay.none := by
  rw [Discipline.wp_attempt, onReceipts, Discipline.wp_mapEvent]
  refine wp_extract ⟨fun _ => trivial, fun _ _ _ _ => rfl,
    fun _ _ _ => actsOnly_of_besides, ?_⟩
  intro before event after row present acts otherId token sameLease
  have sameKey : job.dedupeKey = extractDedupeKey otherId :=
    congrArg Prod.fst (Option.some.inj sameLease)
  obtain rfl := extractDedupeKey_inj (key.symm.trans sameKey)
  exact Or.inr ⟨event, row, rfl, present, acts⟩

theorem executes :
    ExecutionRules leaseRules .free (fun _ => True) (fun _ _ _ => True)
      fun _ _ => True := by
  refine indifferent_leaseRules.executes (fun _ => trivial) ?_ ?_ ?_ ?_
  · exact ⟨fun _ _ _ _ _ => trivial, fun _ _ => trivial, fun _ _ => trivial,
      fun _ _ => trivial⟩
  · intro job now submissionId accountId errorClass key
    exact .of_wp fun _ _ _ => Discipline.wp_mono
      (fun _ _ _ nothing => ⟨nothing, trivial⟩)
      (wp_onReceipts_ingest key endsClean_failQueued)
  · intro job environment accountId submissionId bytes mimeType extractJobId
      key
    exact .of_wp fun _ _ _ => Discipline.wp_mono
      (fun _ _ _ nothing => ⟨nothing, trivial⟩)
      (wp_onReceipts_ingest key endsClean_ingest)
  · intro job config environment accountId submissionId key
    exact .of_wp fun _ _ _ => Discipline.wp_mono
      (fun _ _ _ nothing => ⟨nothing, trivial⟩) (wp_onReceipts_extract key)

end Executions

section Runs

/-- Calls of the receipt lifecycle outside executions carry no lease. -/
theorem verifiesAll_receipts :
    leaseRules.VerifiesAll (fun _ _ => True)
      (fun request => serve (.receipt request)) fun _ _ => True := by
  refine .of_wp fun request store _ => ?_
  unfold serve
  rw [Discipline.wp_monad_bind, Discipline.wp_mapEvent]
  refine Discipline.wp_mono (fun _ _ _ _ => trivial)
    (Discipline.wp_of_behaves ?_ (fun _ _ _ => trivial) trivial
      Session.behaves_any fun _ _ => rfl)
  intro before event after _ _ submissionId token leased
  contradiction

/-- Everything that runs keeps the rules of leases. -/
theorem verifiesAll :
    leaseRules.VerifiesAll (fun _ _ => True) serve fun _ _ => True :=
  (indifferent_leaseRules.serves (fun _ => trivial)
    verifiesAll_receipts).verifiesAll executes (fun _ _ => trivial)
    fun _ => trivial

/-- A publication takes the lease of an extraction away: the job is claimed
again, settled, recovered or cancelled. -/
def TakesLease (publication : Publication BotRow LeasedEvent)
    (submissionId token : Uuid) : Prop :=
  HoldsLease publication.before (extractDedupeKey submissionId) token ∧
    ¬ HoldsLease publication.after (extractDedupeKey submissionId) token

/-- A publication is a transaction of the extraction under a lease. -/
def Extracts (publication : Publication BotRow LeasedEvent)
    (submissionId token : Uuid) : Prop :=
  ∃ event, publication.event =
    ⟨some (extractDedupeKey submissionId, token), .receipt event⟩

/-- The extraction of the submission is over. -/
def IsExtracted (submissionId : Uuid) (store : BotStore) : Prop :=
  ∃ row, store (.submission submissionId) = some row ∧
    row.state.isPastExtraction = true

/-- No lease is taken away before the extraction of its submission is over, or
the execution under it commits no transaction of the extraction any more. -/
def LeasesOutlastExtractions
    (log : List (Publication BotRow LeasedEvent)) : Prop :=
  log.Pairwise fun later earlier => ∀ submissionId token,
    TakesLease earlier submissionId token →
      Extracts later submissionId token →
        IsExtracted submissionId earlier.before

theorem isExtracted_advances {submissionId : Uuid} {before after : BotStore}
    (begun : ReceiptInvariant before) (holds : ReceiptInvariant after)
    (advances : ReceiptAdvances before after)
    (extracted : IsExtracted submissionId before) :
    IsExtracted submissionId after := by
  obtain ⟨row, present, isPast⟩ := extracted
  obtain ⟨next, found, grown, _⟩ :=
    advances.submissions submissionId row present
  have member : row.state ∈ next.history :=
    grown.mem (List.mem_of_mem_head?
      (begun.legal submissionId row present).current)
  have legal := holds.legal submissionId next found
  obtain ⟨current, isHead, stillPast⟩ := legal.path.closed
    isPastExtraction_of_canTransition rfl member isPast
  rw [legal.current] at isHead
  cases isHead
  exact ⟨next, found, stillPast⟩

/-- No transaction of an extraction acts on what has been extracted. -/
theorem actsOn_of_isPastExtraction {event : ReceiptEvent}
    {state : ReceiptState} (isPast : state.isPastExtraction = true) :
    actsOn event state = false := by
  cases state <;> cases event <;> first | rfl | contradiction

/-- In runs in which the leases outlast the extractions, an execution changes
its submission or the draft only while it holds the current lease of the
job. -/
theorem receipts_follow_current_lease {initial : BotStore}
    {pool : WorkerPool} (fresh : ReceiptMachine.WithoutReceipts initial)
    (run : SessionReaches serve (Pool.idle (Database.fresh initial)) pool)
    (outlast : LeasesOutlastExtractions pool.world.log) :
    ∀ publication ∈ pool.world.log, ∀ submissionId token,
      publication.event.lease =
          some (extractDedupeKey submissionId, token) →
        Leaves submissionId publication.before publication.after ∨
        HoldsLease publication.before (extractDedupeKey submissionId)
          token := by
  intro publication member submissionId token lease
  obtain ⟨later, earlier, split⟩ := List.append_of_mem member
  have acts := (Discipline.sound_of_reaches verifiesAll trivial
    (fun _ _ _ => ⟨fun _ _ _ _ _ _ => trivial, fun _ _ _ _ => trivial⟩)
    run).shared.logged.of_split split
  have moves := (Discipline.sound_of_reaches progress_verifiesAll
    fresh.invariant (fun _ _ _ => ⟨fun _ _ _ _ _ _ => trivial,
      fun _ _ _ _ => trivial⟩) run).shared.logged.of_split split
  rcases acts.2.2 submissionId token lease with same | acted
  · exact .inl same
  obtain ⟨receiptEvent, row, isEvent, present, isActing⟩ := acted
  have extracts : Extracts publication submissionId token := by
    refine ⟨receiptEvent, ?_⟩
    rw [← lease, ← isEvent]
  obtain ⟨grant, granted, leased⟩ := leased_of_reaches run split lease
  obtain ⟨between, before, splitEarlier⟩ := List.append_of_mem granted
  rcases moves.1.holds_until (HoldsLease · _ token) splitEarlier leased with
    held | ⟨taker, taken, takes⟩
  · exact .inr held
  have isEarlier : taker ∈ earlier := by
    rw [splitEarlier]
    exact List.mem_append_left _ taken
  have extracted : IsExtracted submissionId taker.before := by
    rw [split] at outlast
    exact (List.pairwise_cons.mp (List.pairwise_append.mp outlast).2.1).1
      taker isEarlier submissionId token takes extracts
  have ⟨begun, _, progress⟩ := moves.1.of_mem isEarlier
  have advances := progress.advances.trans (moves.1.advances_of_mem isEarlier)
  obtain ⟨current, found, isPast⟩ :=
    isExtracted_advances begun moves.2.1 advances extracted
  rw [present] at found
  cases found
  rw [actsOn_of_isPastExtraction isPast] at isActing
  contradiction

/-- A worker that claims the extraction of the submission. -/
def worker (claimedAt : Timestamp) (token : String)
    (extracted : Except StoreError ExtractionResult) : WorkEnvironment where
  options := ⟨1, "worker", 60⟩
  claimedAt := claimedAt
  token := ⟨token⟩
  candidate := some "receipt.extract:submission"
  mediaUrl := none
  download _ := .error .validation
  failedAt := claimedAt
  ingest := ⟨claimedAt, fun _ _ => .error (.validation "not an image"),
    ⟨"asset"⟩, .dependency "object store failed"⟩
  extractJobId := ⟨"extract"⟩
  config := ⟨24, true, 10⟩
  extract := ⟨claimedAt, claimedAt, ⟨"draft"⟩, "1970-01",
    fun _ => extracted, .dependency "object store failed"⟩
  followup := ⟨⟨claimedAt, true, 10, "1970-01", ⟨"outbound"⟩, ⟨"deliver"⟩⟩,
    ("zalo", "event"), fun _ _ => "review", fun _ _ => "failed"⟩
  otherExecution := .staleLease
  settledAt := claimedAt

/-- An executable check that a publication is no transaction under a lease
that an earlier one took away. -/
def outlasts (later earlier : Publication BotRow LeasedEvent) : Bool :=
  match later.event with
  | ⟨some (dedupeKey, token), .receipt _⟩ =>
      !(earlier.before (.job dedupeKey)).any (·.leaseToken = some token) ||
        (earlier.after (.job dedupeKey)).any (·.leaseToken = some token)
  | _ => true

theorem holdsLease_iff {store : BotStore} {dedupeKey : String}
    {token : Uuid} :
    HoldsLease store dedupeKey token ↔
      (store (.job dedupeKey)).any (·.leaseToken = some token) = true := by
  simp [HoldsLease, Option.any_eq_true]

theorem leasesOutlastExtractions_of_check
    {log : List (Publication BotRow LeasedEvent)}
    (checked : log.Pairwise fun later earlier =>
      outlasts later earlier = true) : LeasesOutlastExtractions log := by
  refine checked.imp ?_
  rintro later earlier passes submissionId token ⟨held, lost⟩ ⟨event, isEvent⟩
  rw [holdsLease_iff] at held lost
  simp [outlasts, isEvent, held, lost] at passes

/-- An image is ingested.  A first worker begins its extraction and is dropped;
its lease expires, and a second worker extracts. -/
def takenOverRun : List (Nat × SessionLabel WorkerRequest) :=
  List.flatten [ReceiptMachine.ingestedRun.map receiptLabel,
    [(2, .begin (.work (worker 10 "first" (.error ⟨.timeout, "slow"⟩))))],
    .replicate 8 (2, .advance), [(2, .drop)],
    [(3, .begin (.work (worker 61000011 "second"
      (.ok ⟨50000, "VND", "Cafe", "an-uong", "expense", 0, false⟩))))],
    .replicate 29 (3, .advance)]

theorem receipts_follow_current_lease_taken_over :
    ∃ pool, runLabels (poolStep (sessionAct serve))
        (Pool.idle (Database.fresh ReceiptMachine.oneAccount))
        takenOverRun = some pool ∧
      (∃ row, pool.world.store (.submission ⟨"submission"⟩) = some row ∧
        row.state = .reviewRequired) ∧
      ∀ publication ∈ pool.world.log, ∀ submissionId token,
        publication.event.lease =
            some (extractDedupeKey submissionId, token) →
          Leaves submissionId publication.before publication.after ∨
          HoldsLease publication.before (extractDedupeKey submissionId)
            token := by
  have runs : ∃ pool, runLabels (poolStep (sessionAct serve))
        (Pool.idle (Database.fresh ReceiptMachine.oneAccount))
        takenOverRun = some pool ∧
      (∃ row, pool.world.store (.submission ⟨"submission"⟩) = some row ∧
        row.state = .reviewRequired) ∧
      pool.world.log.Pairwise fun later earlier =>
        outlasts later earlier = true :=
    ⟨_, rfl, ⟨_, rfl, rfl⟩, by decide⟩
  obtain ⟨pool, ran, reviewed, checked⟩ := runs
  exact ⟨pool, ran, reviewed, receipts_follow_current_lease
    ReceiptMachine.withoutReceipts_oneAccount
    (reaches_of_runLabels (permits_anyStep _ takenOverRun) ran)
    (leasesOutlastExtractions_of_check checked)⟩

/-- The extractor of a first worker times out after its lease has expired and
a second worker has claimed the job. -/
def supersededRun : List (Nat × SessionLabel WorkerRequest) :=
  List.flatten [ReceiptMachine.ingestedRun.map receiptLabel,
    [(2, .begin (.work (worker 10 "first" (.error ⟨.timeout, "slow"⟩))))],
    .replicate 14 (2, .advance),
    [(3, .begin (.work (worker 61000011 "second"
      (.ok ⟨50000, "VND", "Cafe", "an-uong", "expense", 0, false⟩))))],
    .replicate 3 (3, .advance), .replicate 8 (2, .advance)]

/-- The first worker records its failure although the second one holds the
lease. -/
theorem superseded_extraction_fails_receipt :
    ∃ pool, SessionReaches serve
        (Pool.idle (Database.fresh ReceiptMachine.oneAccount)) pool ∧
      ∃ publication ∈ pool.world.log,
        publication.event.lease =
          some (extractDedupeKey ⟨"submission"⟩, ⟨"first"⟩) ∧
        HoldsLease publication.before (extractDedupeKey ⟨"submission"⟩)
          ⟨"second"⟩ ∧
        (∃ row, publication.before (.submission ⟨"submission"⟩) = some row ∧
          row.state = .extracting) ∧
        ∃ row, publication.after (.submission ⟨"submission"⟩) = some row ∧
          row.state = .failedTransient :=
  ⟨_, reaches_of_runLabels (permits_anyStep _ supersededRun) rfl,
    _, List.mem_cons_self, rfl, ⟨_, rfl, rfl⟩, ⟨_, rfl, rfl⟩, _, rfl, rfl⟩

end Runs

end ReceiptLeases

end ZaloBot
