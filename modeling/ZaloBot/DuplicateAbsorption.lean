import ZaloBot.WorkerCustody

/-!
# Duplicate absorption and stranded receipts

In every run in which no lookup after a unique conflict is in vain, an image
of an account has at most one active copy, an ingestion reports what it has
done, and a submission that waits for a worker has its job.  When the original
is deleted between the conflict and the lookup, the duplicate is reported as
stored, its job is completed, and it stays queued without an asset.
-/

namespace ZaloBot

open Sessions LabelledRuns TaskPool

section Assets

variable {noCancel : Prop}

/-- Active assets of one account with one image are one asset. -/
theorem Custody.unique_active {store : BotStore}
    (holds : Custody noCancel store) {first second : Uuid}
    {asset other : AssetRow} (present : store (.asset first) = some asset)
    (presentOther : store (.asset second) = some other)
    (active : asset.deletionState = .active)
    (activeOther : other.deletionState = .active)
    (owner : asset.accountId = other.accountId)
    (image : asset.image.contentSha256 = other.image.contentSha256) :
    first = second := by
  have indexed := (holds.images asset.accountId asset.image.contentSha256
    first).mpr ⟨asset, present, rfl, rfl, active⟩
  have indexedOther := (holds.images asset.accountId
    asset.image.contentSha256 second).mpr
      ⟨other, presentOther, owner.symm, image.symm, activeOther⟩
  rw [indexed] at indexedOther
  exact Option.some.inj indexedOther

/-- The asset of a submission that has been stored belongs to its account. -/
theorem Custody.owner_of_asset {store : BotStore}
    (holds : Custody noCancel store) {id : Uuid} {asset : AssetRow}
    (present : store (.asset id) = some asset) :
    ∃ row, store (.submission id) = some row ∧
      row.accountId = asset.accountId := by
  obtain ⟨row, found, stored⟩ := holds.assets id asset present
  obtain ⟨own, isOwn, owner⟩ :=
    ((holds.submissions id row found).stored stored).1
  rw [present] at isOwn
  cases isOwn
  exact ⟨row, found, owner.symm⟩

end Assets

namespace Workers

open Receipts

/-- Every lookup of an active copy after a conflict finds one. -/
def findsCopies (pool : WorkerPool)
    (label : Nat × SessionLabel WorkerRequest) : Prop :=
  observesOnly (fun session store => ¬ LooksUpInVain session store) pool label

/-- The operator cancels no job. -/
def cancelsNothing (pool : WorkerPool)
    (label : Nat × SessionLabel WorkerRequest) : Prop :=
  publishesOnly (fun _ event => event.event ≠ .cancel) pool label

/-- A database in which nothing has been accepted. -/
structure NothingAccepted (store : BotStore) : Prop where
  submissions : ∀ id, store (.submission id) = none
  assets : ∀ id, store (.asset id) = none
  images : ∀ accountId contentSha256,
    store (.activeImage accountId contentSha256) = none
  ingestJobs : ∀ id, store (.job (ingestDedupeKey id)) = none
  extractJobs : ∀ id, store (.job (extractDedupeKey id)) = none

theorem NothingAccepted.custody {noCancel : Prop} {store : BotStore}
    (nothing : NothingAccepted store) : Custody noCancel store where
  submissions id row present := by simp [nothing.submissions] at present
  assets id asset present := by simp [nothing.assets] at present
  images accountId contentSha256 id := by
    simp [nothing.images, nothing.assets]
  ingestJobs id job present := by simp [nothing.ingestJobs] at present
  extractJobs id job present := by simp [nothing.extractJobs] at present

section Runs

variable {noCancel : Prop} {initial : BotStore} {pool : WorkerPool}

/-- Every run without vain lookups keeps custody. -/
theorem custody_of_reaches {allowed : WorkerPool →
      Nat × SessionLabel WorkerRequest → Prop}
    (finds : ∀ pool label, allowed pool label → findsCopies pool label)
    (cancels : noCancel → ∀ pool label, allowed pool label →
      cancelsNothing pool label)
    (nothing : NothingAccepted initial)
    (run : Reaches (poolStep (sessionAct serve)) allowed
      (Pool.idle (Database.fresh initial)) pool) :
    Holds (Discipline.Sound (workerRules noCancel) initial)
      (Discipline.Verified (workerRules noCancel)
        (lookupPolicy LeasedEvent ReceiptFailure).observes ingestReturns)
      pool := by
  refine Discipline.sound_of_reaches custody_verifiesAll nothing.custody
    (fun pool label isAllowed => ⟨?_, finds pool label isAllowed⟩) run
  intro own rest running moves event published never
  exact cancels never pool label isAllowed own rest running moves event
    published

/-- What an ingestion that reports its submission as stored has done. -/
def ReportsStored (store : BotStore) (id : Uuid) : Prop :=
  ∃ row asset job, store (.submission id) = some row ∧
    .stored ∈ row.history ∧ store (.asset id) = some asset ∧
    asset.accountId = row.accountId ∧
    store (.job (extractDedupeKey id)) = some job ∧
    job.jobType = jobTypeExtract

theorem reportsStored_of_wasStored {store : BotStore} {id : Uuid}
    (holds : Custody noCancel store) (stored : WasStored store id) :
    ReportsStored store id := by
  obtain ⟨row, present, member⟩ := stored
  obtain ⟨⟨asset, presentAsset, owner⟩, hasJob⟩ :=
    (holds.submissions id row present).stored member
  obtain ⟨job, presentJob⟩ := Option.isSome_iff_exists.mp hasJob
  exact ⟨row, asset, job, present, member, presentAsset, owner, presentJob,
    (holds.extractJobs id job presentJob).1⟩

/-- What an ingestion that reports its submission as a duplicate has done: the
submission has failed for good and names another submission of its account,
which had an active asset with that image. -/
def ReportsDuplicate (database : Database BotRow LeasedEvent)
    (id accountId original : Uuid) (contentSha256 : String) : Prop :=
  ∃ row originalRow, database.store (.submission id) = some row ∧
    row.accountId = accountId ∧
    (row.state = .failedPermanent ∨ row.state = .deleted) ∧
    row.duplicateOfSubmissionId = some original ∧ original ≠ id ∧
    database.store (.submission original) = some originalRow ∧
    originalRow.accountId = accountId ∧
    ∃ publication ∈ database.log, ∃ asset,
      publication.after (.asset original) = some asset ∧
      asset.accountId = accountId ∧
      asset.image.contentSha256 = contentSha256 ∧
      asset.deletionState = .active

theorem reportsDuplicate_of_absorbed {accountId id original : Uuid}
    {contentSha256 : String} {database : Database BotRow LeasedEvent}
    (nothing : NothingAccepted initial)
    (sound : Discipline.Sound (workerRules noCancel) initial database)
    (absorbed : Absorbed database.store id accountId original)
    (image : HasImage database.store original accountId contentSha256) :
    ReportsDuplicate database id accountId original contentSha256 := by
  have holds : Custody noCancel database.store := sound.invariant
  obtain ⟨row, present, owner, member, names⟩ := absorbed
  obtain ⟨asset, presentAsset, assetOwner, isImage⟩ := image
  have legal := (holds.submissions id row present).legal
  have different : original ≠ id := by
    rintro rfl
    exact (SubmissionRow.satisfiesChecks_iff.mp legal.checks).2.1 names
  obtain ⟨originalRow, presentOriginal, originalOwner⟩ :=
    holds.owner_of_asset presentAsset
  obtain ⟨publication, logged, absent, appeared⟩ :=
    sound.logged.exists_inserting (nothing.assets original)
      (by simp [presentAsset])
  obtain ⟨first, isFirst⟩ := Option.isSome_iff_exists.mp appeared
  have progress : CustodyProgress noCancel publication.before
      publication.after :=
    (sound.logged.of_mem logged).2.2
  have moves : CustodyAdvances publication.after database.store :=
    sound.logged.advances_of_mem logged
  obtain ⟨now, isNow, sameOwner, sameImage⟩ :=
    moves.assets original first isFirst
  rw [presentAsset] at isNow
  cases isNow
  exact ⟨row, originalRow, present, owner,
    legal.state_of_terminal member rfl, names, different, presentOriginal,
    originalOwner.trans assetOwner, publication, logged, first, isFirst,
    sameOwner.symm.trans assetOwner, by rw [← sameImage, isImage],
    progress.created original first absent isFirst⟩

/-- In every run in which no lookup after a conflict is in vain, an image of an
account has at most one active copy, an ingestion that returns `Stored` or
`AlreadyStored` has its submission stored with its asset and its extraction
job, and one that returns `DuplicateAbsorbed` has its submission failed for
good as the duplicate of a submission that had an active copy. -/
theorem duplicates_are_absorbed (nothing : NothingAccepted initial)
    (run : Reaches (poolStep (sessionAct serve)) findsCopies
      (Pool.idle (Database.fresh initial)) pool) :
    (∀ first second asset other,
      pool.world.store (.asset first) = some asset →
      pool.world.store (.asset second) = some other →
      asset.deletionState = .active → other.deletionState = .active →
      asset.accountId = other.accountId →
      asset.image.contentSha256 = other.image.contentSha256 →
        first = second) ∧
    ∀ owner environment accountId submissionId bytes mimeType extractJobId
      outcome, pool.tasks owner = some (.ended (.ok (.receipt (.ingest
        environment accountId submissionId bytes mimeType extractJobId)
        (.ingested outcome)))) →
      match outcome with
      | .stored id _ => id = submissionId ∧
          ReportsStored pool.world.store submissionId
      | .alreadyStored id => id = submissionId ∧
          ReportsStored pool.world.store submissionId
      | .duplicateAbsorbed id original => id = submissionId ∧
          ∃ contentSha256,
            HashOf environment bytes mimeType contentSha256 ∧
            ReportsDuplicate pool.world submissionId accountId original
              contentSha256
      | .alreadyTerminal _ => True := by
  have holds := custody_of_reaches (fun _ _ => id)
    (fun never : False => never.elim) nothing run
  have custody : Custody False pool.world.store := holds.shared.invariant
  refine ⟨?_, ?_⟩
  · intro first second asset other present presentOther active activeOther
      owner image
    exact custody.unique_active present presentOther active activeOther owner
      image
  · intro owner environment accountId submissionId bytes mimeType extractJobId
      outcome ended
    have verified := holds.own owner
    rw [ended] at verified
    obtain ⟨finished, earlier, returned⟩ := verified
    have known := returned environment accountId submissionId bytes mimeType
      extractJobId outcome rfl
    cases outcome with
    | stored id contentSha256 =>
        exact ⟨known.1, reportsStored_of_wasStored custody
          (known.2.advances earlier.advances)⟩
    | alreadyStored id =>
        exact ⟨known.1, reportsStored_of_wasStored custody
          (known.2.advances earlier.advances)⟩
    | duplicateAbsorbed id original =>
        obtain ⟨isId, absorbed, contentSha256, hash, image⟩ := known
        exact ⟨isId, contentSha256, hash, reportsDuplicate_of_absorbed nothing
          holds.shared (absorbed.advances earlier.advances)
          (image.advances earlier.advances)⟩
    | alreadyTerminal state => trivial

/-- A key whose job is queued, leased or dead. -/
def HasOpenJob (store : BotStore) (dedupeKey : String) : Prop :=
  ∃ job, store (.job dedupeKey) = some job ∧
    (job.state = .queued ∨ job.state = .leased ∨ job.state = .dead)

theorem JobWaits.hasOpenJob {store : BotStore} {dedupeKey : String}
    (waits : JobWaits True store dedupeKey) : HasOpenJob store dedupeKey := by
  obtain ⟨job, present, notCompleted, notCancelled⟩ := waits
  refine ⟨job, present, ?_⟩
  have kept := notCancelled trivial
  cases state : job.state <;> simp_all

/-- In every run without cancellations in which no lookup after a conflict is
in vain, every submission that waits for a worker has its job. -/
theorem receipts_are_not_stranded (nothing : NothingAccepted initial)
    (run : Reaches (poolStep (sessionAct serve))
      (fun pool label => findsCopies pool label ∧ cancelsNothing pool label)
      (Pool.idle (Database.fresh initial)) pool) :
    ∀ id row, pool.world.store (.submission id) = some row →
      (row.state = .queued →
        HasOpenJob pool.world.store (ingestDedupeKey id)) ∧
      (row.state = .stored ∨ row.state = .extracting ∨
          row.state = .failedTransient →
        HasOpenJob pool.world.store (extractDedupeKey id)) := by
  have holds := custody_of_reaches (fun _ _ allowed => allowed.1)
    (fun (_ : True) _ _ allowed => allowed.2) nothing run
  have custody : Custody True pool.world.store := holds.shared.invariant
  intro id row present
  have kept := custody.submissions id row present
  refine ⟨fun isQueued => JobWaits.hasOpenJob (kept.queued isQueued).2,
    fun waiting => JobWaits.hasOpenJob (kept.awaits ?_)⟩
  rcases waiting with isState | isState | isState <;> rw [isState] <;> rfl

/-- The lookup of the next step finds a copy if it decides on one. -/
def checksLookup (original : Uuid) (pool : WorkerPool)
    (label : Nat × SessionLabel WorkerRequest) : Bool :=
  match pool.tasks label.1 with
  | some (.running _ (.read next _)) =>
      !(startsOrdinary (next pool.world.store) &&
        locksSubmission (next (withCopies pool.world.store original)))
  | _ => true

theorem findsCopies_of_checksLookup (pool : WorkerPool)
    (label : Nat × SessionLabel WorkerRequest)
    (checked : ∀ original, checksLookup original pool label = true) :
    findsCopies pool label := by
  rintro own rest running _ ⟨next, failed, original, rfl, starts, locks⟩
  have isChecked := checked original
  rw [checksLookup, running] at isChecked
  simp only [starts, locks] at isChecked
  contradiction

theorem permits_findsCopies {labels : List (Nat × SessionLabel WorkerRequest)}
    (checked : ∀ original, checks (poolStep (sessionAct serve))
      (checksLookup original) pool labels = true) :
    permits (poolStep (sessionAct serve)) findsCopies pool labels :=
  permits_mono findsCopies_of_checksLookup
    (permits_forall fun original =>
      permits_of_checks (fun _ _ => id) (checked original))

theorem nothingAccepted_oneAccount :
    NothingAccepted ReceiptMachine.oneAccount where
  submissions _ := rfl
  assets _ := rfl
  images _ _ := rfl
  ingestJobs _ := rfl
  extractJobs _ := rfl

/-- The acceptance of a submission. -/
def acceptance (submissionId jobId : String) : WorkerRequest :=
  .receipt (.accept 0 ⟨⟨submissionId⟩, ⟨"account"⟩, none, ⟨jobId⟩⟩)

/-- The ingestion of one and the same image for a submission. -/
def ingestion (submissionId extractJobId : String) : ReceiptRequest :=
  .ingest
    ⟨1, fun _ mimeType => .ok ⟨"hash", mimeType, 1, 1, 1⟩, ⟨"asset"⟩,
      .dependency "object store failed"⟩
    ⟨"account"⟩ ⟨submissionId⟩ [255] "image/png" ⟨extractJobId⟩

/-- An image is accepted twice. -/
def acceptedTwice : List (Nat × SessionLabel WorkerRequest) :=
  List.flatten [[(0, .begin (acceptance "submission" "job"))],
    .replicate 12 (0, .advance),
    [(1, .begin (acceptance "copy" "other job"))],
    .replicate 12 (1, .advance)]

/-- The original is ingested before its copy. -/
def absorbedRun : List (Nat × SessionLabel WorkerRequest) :=
  List.flatten [acceptedTwice,
    [(2, .begin (.receipt (ingestion "submission" "extract")))],
    .replicate 19 (2, .advance),
    [(3, .begin (.receipt (ingestion "copy" "other extract")))],
    .replicate 9 (3, .advance)]

/-- The image is absorbed as the duplicate of the one that is stored. -/
theorem duplicates_are_absorbed_twice :
    ∃ pool, runLabels (poolStep (sessionAct serve))
        (Pool.idle (Database.fresh ReceiptMachine.oneAccount))
        absorbedRun = some pool ∧
      ReportsStored pool.world.store ⟨"submission"⟩ ∧
      ReportsDuplicate pool.world ⟨"copy"⟩ ⟨"account"⟩ ⟨"submission"⟩
        "hash" := by
  have permitted : permits (poolStep (sessionAct serve)) findsCopies
      (Pool.idle (Database.fresh ReceiptMachine.oneAccount)) absorbedRun :=
    permits_findsCopies fun _ => rfl
  have runs : ∃ pool, runLabels (poolStep (sessionAct serve))
        (Pool.idle (Database.fresh ReceiptMachine.oneAccount))
        absorbedRun = some pool ∧
      pool.tasks 2 = some (.ended (.ok (.receipt
        (ingestion "submission" "extract")
        (.ingested (.stored ⟨"submission"⟩ "hash"))))) ∧
      pool.tasks 3 = some (.ended (.ok (.receipt
        (ingestion "copy" "other extract")
        (.ingested (.duplicateAbsorbed ⟨"copy"⟩ ⟨"submission"⟩))))) :=
    ⟨_, rfl, rfl, rfl⟩
  obtain ⟨pool, ran, first, second⟩ := runs
  have reports := (duplicates_are_absorbed nothingAccepted_oneAccount
    (reaches_of_runLabels permitted ran)).2
  obtain ⟨_, contentSha256, ⟨image, validated, isHash⟩, duplicate⟩ :=
    reports 3 _ _ _ _ _ _ _ second
  cases validated
  cases isHash
  exact ⟨pool, ran, (reports 2 _ _ _ _ _ _ _ first).2, duplicate⟩

/-- The copy is validated and put while the original is not yet stored, and the
original is deleted between the conflict and the lookup. -/
def strandedRun (request : WorkerRequest) (untilPut afterLookup : Nat) :
    List (Nat × SessionLabel WorkerRequest) :=
  List.flatten [acceptedTwice,
    [(3, .begin request)], .replicate untilPut (3, .advance),
    [(2, .begin (.receipt (ingestion "submission" "extract")))],
    .replicate 19 (2, .advance), .replicate 9 (3, .advance),
    [(4, .begin (.receipt (.deleteOriginal 5
      (.dependency "object store failed") ⟨"account"⟩ ⟨"submission"⟩)))],
    .replicate 11 (4, .advance), .replicate afterLookup (3, .advance)]

/-- The ingestion of the copy returns `AlreadyStored` for a submission without
an asset. -/
theorem stored_without_asset :
    ∃ pool, SessionReaches serve
        (Pool.idle (Database.fresh ReceiptMachine.oneAccount)) pool ∧
      pool.tasks 3 = some (.ended (.ok (.receipt
        (ingestion "copy" "other extract")
        (.ingested (.alreadyStored ⟨"copy"⟩))))) ∧
      (∃ row, pool.world.store (.submission ⟨"copy"⟩) = some row ∧
        row.state = .queued) ∧
      pool.world.store (.asset ⟨"copy"⟩) = none :=
  ⟨_, reaches_of_runLabels (permits_anyStep _
    (strandedRun (.receipt (ingestion "copy" "other extract")) 5 2)) rfl,
    rfl, ⟨_, rfl, rfl⟩, rfl⟩

/-- A worker that claims the ingestion of the copy. -/
def ingestWorker : WorkEnvironment where
  options := ⟨1, "worker", 60⟩
  claimedAt := 2
  token := ⟨"token"⟩
  candidate := some "receipt.ingest:copy"
  mediaUrl := some "https://photo.zalo.example/copy.png"
  download _ := .ok ([255], some "image/png")
  failedAt := 2
  ingest := ⟨2, fun _ mimeType => .ok ⟨"hash", mimeType, 1, 1, 1⟩, ⟨"asset"⟩,
    .dependency "object store failed"⟩
  extractJobId := ⟨"other extract"⟩
  config := ⟨24, true, 10⟩
  extract := ⟨2, 2, ⟨"draft"⟩, "1970-01", fun _ => .error ⟨.timeout, "slow"⟩,
    .dependency "object store failed"⟩
  followup := ⟨⟨2, true, 10, "1970-01", ⟨"outbound"⟩, ⟨"deliver"⟩⟩,
    ("zalo", "event"), fun _ _ => "review", fun _ _ => "failed"⟩
  otherExecution := .staleLease
  settledAt := 2

def isNoCancel (_ : BotStore) (event : LeasedEvent) : Bool :=
  match event.event with
  | .cancel => false
  | _ => true

theorem permits_cancelsNothing
    {labels : List (Nat × SessionLabel WorkerRequest)}
    (checked : checks (poolStep (sessionAct serve))
      (checksPublication isNoCancel) pool labels = true) :
    permits (poolStep (sessionAct serve)) cancelsNothing pool labels := by
  have sound : ∀ store event, isNoCancel store event = true →
      event.event ≠ .cancel := by
    rintro store ⟨lease, event⟩ passed rfl
    contradiction
  exact permits_of_checks (publishesOnly_of_check sound) checked

/-- The worker stores the image of the copy. -/
def workedRun : List (Nat × SessionLabel WorkerRequest) :=
  List.flatten [acceptedTwice, [(3, .begin (.work ingestWorker))],
    .replicate 26 (3, .advance)]

/-- The original waits for its ingestion and the copy for its extraction. -/
theorem receipts_are_not_stranded_worked :
    ∃ pool, runLabels (poolStep (sessionAct serve))
        (Pool.idle (Database.fresh ReceiptMachine.oneAccount))
        workedRun = some pool ∧
      HasOpenJob pool.world.store (ingestDedupeKey ⟨"submission"⟩) ∧
      HasOpenJob pool.world.store (extractDedupeKey ⟨"copy"⟩) := by
  have permitted : permits (poolStep (sessionAct serve))
      (fun pool label => findsCopies pool label ∧ cancelsNothing pool label)
      (Pool.idle (Database.fresh ReceiptMachine.oneAccount)) workedRun :=
    permits_and (permits_findsCopies fun _ => rfl) (permits_cancelsNothing rfl)
  have runs : ∃ pool, runLabels (poolStep (sessionAct serve))
        (Pool.idle (Database.fresh ReceiptMachine.oneAccount))
        workedRun = some pool ∧
      (pool.world.store (.submission ⟨"submission"⟩)).map
        SubmissionRow.state = some .queued ∧
      (pool.world.store (.submission ⟨"copy"⟩)).map
        SubmissionRow.state = some .stored :=
    ⟨_, rfl, rfl, rfl⟩
  obtain ⟨pool, ran, queued, stored⟩ := runs
  obtain ⟨row, present, isQueued⟩ := Option.map_eq_some_iff.mp queued
  obtain ⟨copy, presentCopy, isStored⟩ := Option.map_eq_some_iff.mp stored
  have waits := receipts_are_not_stranded nothingAccepted_oneAccount
    (reaches_of_runLabels permitted ran)
  exact ⟨pool, ran, (waits _ row present).1 isQueued,
    (waits _ copy presentCopy).2 (.inl isStored)⟩

/-- The job of the copy is completed, and the copy stays queued. -/
theorem completed_job_strands_receipt :
    ∃ pool, SessionReaches serve
        (Pool.idle (Database.fresh ReceiptMachine.oneAccount)) pool ∧
      (∃ row, pool.world.store (.submission ⟨"copy"⟩) = some row ∧
        row.state = .queued) ∧
      ∃ job, pool.world.store (.job (ingestDedupeKey ⟨"copy"⟩)) = some job ∧
        job.state = .completed :=
  ⟨_, reaches_of_runLabels (permits_anyStep _
    (strandedRun (.work ingestWorker) 9 5)) rfl,
    ⟨_, rfl, rfl⟩, _, rfl, rfl⟩

end Runs

end Workers

end ZaloBot
