import ZaloBot.ReceiptDiscipline

/-!
# Custody of receipts

What ties a submission to its asset, to the index of active images and to its
jobs.  A submission that waits for a worker has a job that is not completed; a
submission that has been stored has its asset and its extraction job; the index
of active images names exactly the active assets; and a submission absorbed as a
duplicate names a submission of its account that had an asset.  Each kind of
commit has a lemma that says when it keeps this.
-/

namespace ZaloBot

open Sessions

/-- The states a submission reaches only after it has been stored. -/
def ReceiptState.hasBeenStored : ReceiptState → Bool
  | .stored | .extracting | .reviewRequired | .confirmed | .rejected
  | .expired | .failedTransient => true
  | _ => false

/-- The states in which a submission waits for its extraction job. -/
def ReceiptState.awaitsExtraction : ReceiptState → Bool
  | .stored | .extracting | .failedTransient => true
  | _ => false

/-- A job that will be executed, or can be recovered; cancelled jobs count
unless nothing is cancelled. -/
def JobRow.Waits (noCancel : Prop) (job : JobRow) : Prop :=
  job.state ≠ .completed ∧ (noCancel → job.state ≠ .cancelled)

/-- A key whose job waits. -/
def JobWaits (noCancel : Prop) (store : BotStore) (dedupeKey : String) :
    Prop :=
  ∃ job, store (.job dedupeKey) = some job ∧ job.Waits noCancel

/-- An account that is active. -/
def AccountActive (store : BotStore) (accountId : Uuid) : Prop :=
  ∃ account, store (.account accountId) = some account ∧
    account.lifecycleState = .active

/-- An asset of a submission and an account. -/
def HasAsset (store : BotStore) (id accountId : Uuid) : Prop :=
  ∃ asset, store (.asset id) = some asset ∧ asset.accountId = accountId

/-- The rows that belong to the custody of receipts. -/
def BotKey.InCustody : BotKey → Prop
  | .submission _ | .asset _ | .activeImage _ _ | .account _ => True
  | .job dedupeKey => ∃ id, dedupeKey = ingestDedupeKey id ∨
      dedupeKey = extractDedupeKey id
  | _ => False

/-- What a submission may rely on. -/
structure SubmissionKept (noCancel : Prop) (store : BotStore) (id : Uuid)
    (row : SubmissionRow) : Prop where
  legal : row.Legal id
  active : AccountActive store row.accountId
  accepted : row.state ≠ .pending
  queued : row.state = .queued → row.history = [.queued, .pending] ∧
    JobWaits noCancel store (ingestDedupeKey id)
  underway : row.state.hasBeenStored = true → .stored ∈ row.history
  stored : .stored ∈ row.history → HasAsset store id row.accountId ∧
    (store (.job (extractDedupeKey id))).isSome
  awaits : row.state.awaitsExtraction = true →
    JobWaits noCancel store (extractDedupeKey id)
  duplicate : ∀ original, row.duplicateOfSubmissionId = some original →
    HasAsset store original row.accountId

/-- The receipts of a store are in custody. -/
structure Custody (noCancel : Prop) (store : BotStore) : Prop where
  submissions : ∀ id row, store (.submission id) = some row →
    SubmissionKept noCancel store id row
  assets : ∀ id asset, store (.asset id) = some asset →
    ∃ row, store (.submission id) = some row ∧ .stored ∈ row.history
  images : ∀ accountId contentSha256 id,
    store (.activeImage accountId contentSha256) = some id ↔
      ∃ asset, store (.asset id) = some asset ∧
        asset.accountId = accountId ∧
        asset.image.contentSha256 = contentSha256 ∧
        asset.deletionState = .active
  ingestJobs : ∀ id job, store (.job (ingestDedupeKey id)) = some job →
    job.jobType = jobTypeIngest ∧ (store (.submission id)).isSome
  extractJobs : ∀ id job, store (.job (extractDedupeKey id)) = some job →
    job.jobType = jobTypeExtract ∧
      ∃ row, store (.submission id) = some row ∧ .stored ∈ row.history

/-- How receipts in custody move: accounts are left alone, histories grow, and
assets keep their account and their image. -/
structure CustodyAdvances (before after : BotStore) : Prop where
  accounts : ∀ id, after (.account id) = before (.account id)
  submissions : ∀ id row, before (.submission id) = some row →
    ∃ next, after (.submission id) = some next ∧
      next.accountId = row.accountId ∧ row.history <:+ next.history ∧
      ∀ original, row.duplicateOfSubmissionId = some original →
        next.duplicateOfSubmissionId = some original
  assets : ∀ id asset, before (.asset id) = some asset →
    ∃ next, after (.asset id) = some next ∧
      next.accountId = asset.accountId ∧ next.image = asset.image

namespace CustodyAdvances

theorem refl (store : BotStore) : CustodyAdvances store store where
  accounts _ := rfl
  submissions _ row present :=
    ⟨row, present, rfl, List.suffix_refl _, fun _ => id⟩
  assets _ asset present := ⟨asset, present, rfl, rfl⟩

theorem trans {first middle last : BotStore}
    (begun : CustodyAdvances first middle)
    (ended : CustodyAdvances middle last) : CustodyAdvances first last where
  accounts id := (ended.accounts id).trans (begun.accounts id)
  submissions id row present := by
    obtain ⟨next, found, owner, grown, named⟩ :=
      begun.submissions id row present
    obtain ⟨final, foundFinal, ownerFinal, grownFinal, namedFinal⟩ :=
      ended.submissions id next found
    exact ⟨final, foundFinal, ownerFinal.trans owner, grown.trans grownFinal,
      fun original names => namedFinal original (named original names)⟩
  assets id asset present := by
    obtain ⟨next, found, owner, image⟩ := begun.assets id asset present
    obtain ⟨final, foundFinal, ownerFinal, imageFinal⟩ :=
      ended.assets id next found
    exact ⟨final, foundFinal, ownerFinal.trans owner, imageFinal.trans image⟩

end CustodyAdvances

/-- Custody is kept, the receipts move forward, and new assets are active. -/
structure CustodyProgress (noCancel : Prop) (before after : BotStore) :
    Prop where
  custody : Custody noCancel after
  advances : CustodyAdvances before after
  created : ∀ id asset, before (.asset id) = none →
    after (.asset id) = some asset → asset.deletionState = .active

/-- Custody is kept, the receipts move forward, and there are no new
assets. -/
structure CustodyMoves (noCancel : Prop) (before after : BotStore) :
    Prop where
  custody : Custody noCancel after
  advances : CustodyAdvances before after
  nothingNew : ∀ id, before (.asset id) = none → after (.asset id) = none

namespace CustodyMoves

variable {noCancel : Prop} {first middle last store : BotStore}

theorem refl (holds : Custody noCancel store) :
    CustodyMoves noCancel store store :=
  ⟨holds, .refl store, fun _ => id⟩

theorem trans (begun : CustodyMoves noCancel first middle)
    (ended : CustodyMoves noCancel middle last) :
    CustodyMoves noCancel first last :=
  ⟨ended.custody, begun.advances.trans ended.advances,
    fun id absent => ended.nothingNew id (begun.nothingNew id absent)⟩

theorem progress (moves : CustodyMoves noCancel first last) :
    CustodyProgress noCancel first last :=
  ⟨moves.custody, moves.advances, fun id asset absent present => by
    rw [moves.nothingNew id absent] at present
    contradiction⟩

end CustodyMoves

section Kept

variable {noCancel : Prop} {before after store : BotStore} {id : Uuid}
variable {row updated : SubmissionRow}

/-- A store in which everything that submissions rely on is still there. -/
structure Supports (noCancel : Prop) (before after : BotStore) : Prop where
  accounts : ∀ id, after (.account id) = before (.account id)
  assets : ∀ id accountId, HasAsset before id accountId →
    HasAsset after id accountId
  extractJobs : ∀ id, (before (.job (extractDedupeKey id))).isSome →
    (after (.job (extractDedupeKey id))).isSome
  ingests : ∀ id, JobWaits noCancel before (ingestDedupeKey id) →
    JobWaits noCancel after (ingestDedupeKey id)
  extracts : ∀ id, JobWaits noCancel before (extractDedupeKey id) →
    JobWaits noCancel after (extractDedupeKey id)

theorem SubmissionKept.supported
    (kept : SubmissionKept noCancel before id row)
    (supports : Supports noCancel before after) :
    SubmissionKept noCancel after id row where
  legal := kept.legal
  active := by
    rw [AccountActive, supports.accounts]
    exact kept.active
  accepted := kept.accepted
  queued isQueued := ⟨(kept.queued isQueued).1,
    supports.ingests id (kept.queued isQueued).2⟩
  underway := kept.underway
  stored wasStored := ⟨supports.assets _ _ (kept.stored wasStored).1,
    supports.extractJobs _ (kept.stored wasStored).2⟩
  awaits waiting := supports.extracts id (kept.awaits waiting)
  duplicate original names :=
    supports.assets _ _ (kept.duplicate original names)

/-- A legal move of a submission that is not stored by it. -/
theorem SubmissionKept.transitioned {now : Timestamp} {next : ReceiptState}
    {failureErrorClass : Option String} {reviewExpiryHours : Option Int}
    {confirmedExpenseId duplicateOfSubmissionId : Option Uuid}
    (kept : SubmissionKept noCancel store id row)
    (moves : canTransition row.state next = true)
    (checks : (row.transitioned now next failureErrorClass reviewExpiryHours
      confirmedExpenseId duplicateOfSubmissionId).satisfiesChecks id = true)
    (notQueued : next ≠ .queued) (notStored : next ≠ .stored)
    (transient : next = .failedTransient → row.state ≠ .queued)
    (duplicate : ∀ original, duplicateOfSubmissionId = some original →
      HasAsset store original row.accountId) :
    SubmissionKept noCancel store id (row.transitioned now next
      failureErrorClass reviewExpiryHours confirmedExpenseId
      duplicateOfSubmissionId) where
  legal := kept.legal.transitioned moves checks
  active := kept.active
  accepted := by
    change next ≠ .pending
    rintro rfl
    revert moves
    cases row.state <;> simp [canTransition]
  queued isQueued := absurd isQueued notQueued
  underway hasBeen := by
    change next.hasBeenStored = true at hasBeen
    refine List.mem_cons_of_mem _ (kept.underway ?_)
    revert moves hasBeen transient notStored
    cases row.state <;> cases next <;>
      simp [canTransition, ReceiptState.hasBeenStored]
  stored wasStored := by
    refine kept.stored ?_
    rcases List.mem_cons.mp wasStored with same | earlier
    · exact absurd same.symm notStored
    · exact earlier
  awaits waiting := by
    change next.awaitsExtraction = true at waiting
    refine kept.awaits ?_
    revert moves waiting transient notStored
    cases row.state <;> cases next <;>
      simp [canTransition, ReceiptState.awaitsExtraction]
  duplicate original names := by
    change duplicateOfSubmissionId.or row.duplicateOfSubmissionId =
      some original at names
    cases duplicateOfSubmissionId with
    | none => exact kept.duplicate original names
    | some given => exact duplicate original names

end Kept

section Changes

variable {noCancel : Prop} {before after : BotStore} {id : Uuid}
variable {row updated : SubmissionRow}

theorem inCustody_ingest (id : Uuid) :
    (BotKey.job (ingestDedupeKey id)).InCustody :=
  ⟨id, Or.inl rfl⟩

theorem inCustody_extract (id : Uuid) :
    (BotKey.job (extractDedupeKey id)).InCustody :=
  ⟨id, Or.inr rfl⟩

/-- A submission has been stored. -/
def WasStored (store : BotStore) (id : Uuid) : Prop :=
  ∃ row, store (.submission id) = some row ∧ .stored ∈ row.history

theorem WasStored.advances (stored : WasStored before id)
    (advances : CustodyAdvances before after) : WasStored after id := by
  obtain ⟨row, present, member⟩ := stored
  obtain ⟨next, found, _, grown, _⟩ := advances.submissions id row present
  exact ⟨next, found, grown.mem member⟩

/-- A change keeps custody if every submission is kept and every asset and
every job is an old one or has its submission. -/
theorem Custody.changed (holds : Custody noCancel before)
    (advances : CustodyAdvances before after)
    (submissions : ∀ id row, after (.submission id) = some row →
      SubmissionKept noCancel after id row)
    (assets : ∀ id asset, after (.asset id) = some asset →
      (before (.asset id)).isSome ∨
        asset.deletionState = .active ∧ WasStored after id)
    (images : ∀ accountId contentSha256 id,
      after (.activeImage accountId contentSha256) = some id ↔
        ∃ asset, after (.asset id) = some asset ∧
          asset.accountId = accountId ∧
          asset.image.contentSha256 = contentSha256 ∧
          asset.deletionState = .active)
    (ingestJobs : ∀ id job, after (.job (ingestDedupeKey id)) = some job →
      (∃ old, before (.job (ingestDedupeKey id)) = some old ∧
        job.jobType = old.jobType) ∨
      job.jobType = jobTypeIngest ∧ (after (.submission id)).isSome)
    (extractJobs : ∀ id job, after (.job (extractDedupeKey id)) = some job →
      (∃ old, before (.job (extractDedupeKey id)) = some old ∧
        job.jobType = old.jobType) ∨
      job.jobType = jobTypeExtract ∧ WasStored after id) :
    CustodyProgress noCancel before after := by
  refine ⟨⟨submissions, ?_, images, ?_, ?_⟩, advances, ?_⟩
  · intro id asset present
    rcases assets id asset present with old | ⟨_, stored⟩
    · obtain ⟨oldAsset, found⟩ := Option.isSome_iff_exists.mp old
      exact WasStored.advances (holds.assets id oldAsset found) advances
    · exact stored
  · intro id job present
    rcases ingestJobs id job present with ⟨old, found, sameType⟩ | new
    · obtain ⟨jobType, known⟩ := holds.ingestJobs id old found
      obtain ⟨row, isRow⟩ := Option.isSome_iff_exists.mp known
      obtain ⟨next, isNext, _⟩ := advances.submissions id row isRow
      exact ⟨sameType.trans jobType, by simp [isNext]⟩
    · exact new
  · intro id job present
    rcases extractJobs id job present with ⟨old, found, sameType⟩ | new
    · obtain ⟨jobType, stored⟩ := holds.extractJobs id old found
      exact ⟨sameType.trans jobType, WasStored.advances stored advances⟩
    · exact new
  · intro id asset absent present
    rcases assets id asset present with old | ⟨active, _⟩
    · simp [absent] at old
    · exact active

/-- A change that adds no asset. -/
theorem Custody.rearranged (holds : Custody noCancel before)
    (advances : CustodyAdvances before after)
    (submissions : ∀ id row, after (.submission id) = some row →
      SubmissionKept noCancel after id row)
    (assets : ∀ id asset, after (.asset id) = some asset →
      (before (.asset id)).isSome)
    (images : ∀ accountId contentSha256 id,
      after (.activeImage accountId contentSha256) = some id ↔
        ∃ asset, after (.asset id) = some asset ∧
          asset.accountId = accountId ∧
          asset.image.contentSha256 = contentSha256 ∧
          asset.deletionState = .active)
    (ingestJobs : ∀ id job, after (.job (ingestDedupeKey id)) = some job →
      (∃ old, before (.job (ingestDedupeKey id)) = some old ∧
        job.jobType = old.jobType) ∨
      job.jobType = jobTypeIngest ∧ (after (.submission id)).isSome)
    (extractJobs : ∀ id job, after (.job (extractDedupeKey id)) = some job →
      (∃ old, before (.job (extractDedupeKey id)) = some old ∧
        job.jobType = old.jobType) ∨
      job.jobType = jobTypeExtract ∧ WasStored after id) :
    CustodyMoves noCancel before after := by
  have progress := holds.changed advances submissions
    (fun id asset present => Or.inl (assets id asset present)) images
    ingestJobs extractJobs
  refine ⟨progress.custody, progress.advances, fun id absent => ?_⟩
  cases present : after (.asset id) with
  | none => rfl
  | some asset => simpa [absent] using assets id asset present

/-- A change of certain rows in custody only. -/
def SameBut (touched : BotKey → Prop) (before after : BotStore) : Prop :=
  ∀ key : BotKey, key.InCustody → ¬ touched key → after key = before key

namespace SameBut

variable {touched : BotKey → Prop}

theorem supports (same : SameBut touched before after)
    (accounts : ∀ id, ¬ touched (.account id))
    (assets : ∀ id, touched (.asset id) → ∀ accountId,
      HasAsset before id accountId → HasAsset after id accountId)
    (jobs : ∀ dedupeKey, touched (.job dedupeKey) →
      JobWaits noCancel after dedupeKey) :
    Supports noCancel before after := by
  have waits (dedupeKey : String)
      (inCustody : (BotKey.job dedupeKey).InCustody)
      (waited : JobWaits noCancel before dedupeKey) :
      JobWaits noCancel after dedupeKey := by
    by_cases touches : touched (.job dedupeKey)
    · exact jobs dedupeKey touches
    · rwa [JobWaits, same _ inCustody touches]
  refine ⟨fun id => same (.account id) trivial (accounts id), ?_, ?_, ?_, ?_⟩
  · intro id accountId has
    by_cases touches : touched (.asset id)
    · exact assets id touches accountId has
    · rwa [HasAsset, same (.asset id) trivial touches]
  · intro id present
    by_cases touches : touched (.job (extractDedupeKey id))
    · obtain ⟨job, found, _⟩ := jobs _ touches
      simp [found]
    · rwa [same _ (inCustody_extract id) touches]
  · exact fun id => waits _ (inCustody_ingest id)
  · exact fun id => waits _ (inCustody_extract id)

theorem advances (same : SameBut touched before after)
    (accounts : ∀ id, ¬ touched (.account id))
    (submissions : ∀ id, touched (.submission id) → ∀ row,
      before (.submission id) = some row →
      ∃ next, after (.submission id) = some next ∧
        next.accountId = row.accountId ∧ row.history <:+ next.history ∧
        ∀ original, row.duplicateOfSubmissionId = some original →
          next.duplicateOfSubmissionId = some original)
    (assets : ∀ id, touched (.asset id) → ∀ asset,
      before (.asset id) = some asset →
      ∃ next, after (.asset id) = some next ∧
        next.accountId = asset.accountId ∧ next.image = asset.image) :
    CustodyAdvances before after where
  accounts id := same (.account id) trivial (accounts id)
  submissions id row present := by
    by_cases touches : touched (.submission id)
    · exact submissions id touches row present
    · exact ⟨row, (same (.submission id) trivial touches).trans present, rfl,
        List.suffix_refl _, fun _ names => names⟩
  assets id asset present := by
    by_cases touches : touched (.asset id)
    · exact assets id touches asset present
    · exact ⟨asset, (same (.asset id) trivial touches).trans present, rfl,
        rfl⟩

/-- The index of active images after a change that touches no asset. -/
theorem images (same : SameBut touched before after)
    (holds : Custody noCancel before) (assets : ∀ id, ¬ touched (.asset id))
    (images : ∀ accountId contentSha256,
      ¬ touched (.activeImage accountId contentSha256)) :
    ∀ accountId contentSha256 id,
      after (.activeImage accountId contentSha256) = some id ↔
        ∃ asset, after (.asset id) = some asset ∧
          asset.accountId = accountId ∧
          asset.image.contentSha256 = contentSha256 ∧
          asset.deletionState = .active := by
  intro accountId contentSha256 id
  rw [same (.activeImage accountId contentSha256) trivial (images _ _),
    same (.asset id) trivial (assets id)]
  exact holds.images accountId contentSha256 id

theorem ingestJobs (same : SameBut touched before after)
    (job : JobRow) (present : after (.job (ingestDedupeKey id)) = some job)
    (untouched : ¬ touched (.job (ingestDedupeKey id))) :
    ∃ old, before (.job (ingestDedupeKey id)) = some old ∧
      job.jobType = old.jobType :=
  ⟨job, (same _ (inCustody_ingest id) untouched).symm.trans present, rfl⟩

theorem extractJobs (same : SameBut touched before after)
    (job : JobRow) (present : after (.job (extractDedupeKey id)) = some job)
    (untouched : ¬ touched (.job (extractDedupeKey id))) :
    ∃ old, before (.job (extractDedupeKey id)) = some old ∧
      job.jobType = old.jobType :=
  ⟨job, (same _ (inCustody_extract id) untouched).symm.trans present, rfl⟩

theorem assetPresent (same : SameBut touched before after)
    (asset : AssetRow) (present : after (.asset id) = some asset)
    (untouched : ¬ touched (.asset id)) : (before (.asset id)).isSome := by
  rw [← same (.asset id) trivial untouched, present]
  rfl

end SameBut

/-- Changes of rows outside custody. -/
theorem Custody.undisturbed (holds : Custody noCancel before)
    (same : SameBut (fun _ => False) before after) :
    CustodyMoves noCancel before after := by
  have supports : Supports noCancel before after :=
    same.supports (fun _ => id) (fun _ => False.elim) fun _ => False.elim
  refine holds.rearranged (same.advances (fun _ => id) (fun _ => False.elim)
    fun _ => False.elim) ?_ ?_ (same.images holds (fun _ => id) fun _ _ => id)
    ?_ ?_
  · intro id row present
    rw [same (.submission id) trivial not_false] at present
    exact (holds.submissions id row present).supported supports
  · exact fun id asset present =>
      same.assetPresent asset present not_false
  · exact fun id job present => Or.inl (same.ingestJobs job present not_false)
  · exact fun id job present => Or.inl (same.extractJobs job present not_false)

/-- A new row for one submission. -/
theorem Custody.submission (holds : Custody noCancel before)
    (kept : SubmissionKept noCancel before id updated)
    (grown : ∀ row, before (.submission id) = some row →
      updated.accountId = row.accountId ∧ row.history <:+ updated.history ∧
      ∀ original, row.duplicateOfSubmissionId = some original →
        updated.duplicateOfSubmissionId = some original)
    (written : after (.submission id) = some updated)
    (same : SameBut (· = .submission id) before after) :
    CustodyMoves noCancel before after := by
  have supports : Supports noCancel before after :=
    same.supports (by simp) (by simp) (by simp)
  refine holds.rearranged (same.advances (by simp) ?_ (by simp)) ?_ ?_
    (same.images holds (by simp) (by simp)) ?_ ?_
  · rintro other isId row present
    cases isId
    exact ⟨updated, written, grown row present⟩
  · intro other row present
    by_cases isId : other = id
    · subst isId
      rw [written] at present
      cases present
      exact kept.supported supports
    · rw [same (.submission other) trivial (by simpa using isId)] at present
      exact (holds.submissions other row present).supported supports
  · exact fun other asset present =>
      same.assetPresent asset present (by simp)
  · exact fun other job present =>
      Or.inl (same.ingestJobs job present (by simp))
  · exact fun other job present =>
      Or.inl (same.extractJobs job present (by simp))

/-- A legal move of a submission that is not stored by it. -/
theorem Custody.moved {now : Timestamp} {next : ReceiptState}
    {failureErrorClass : Option String} {reviewExpiryHours : Option Int}
    {confirmedExpenseId duplicateOfSubmissionId : Option Uuid}
    (holds : Custody noCancel before)
    (present : before (.submission id) = some row)
    (moves : canTransition row.state next = true)
    (checks : (row.transitioned now next failureErrorClass reviewExpiryHours
      confirmedExpenseId duplicateOfSubmissionId).satisfiesChecks id = true)
    (notQueued : next ≠ .queued) (notStored : next ≠ .stored)
    (transient : next = .failedTransient → row.state ≠ .queued)
    (duplicate : ∀ original, duplicateOfSubmissionId = some original →
      next = .failedPermanent ∧ HasAsset before original row.accountId)
    (written : after (.submission id) = some (row.transitioned now next
      failureErrorClass reviewExpiryHours confirmedExpenseId
      duplicateOfSubmissionId))
    (same : SameBut (· = .submission id) before after) :
    CustodyMoves noCancel before after := by
  have kept := holds.submissions id row present
  refine holds.submission (kept.transitioned moves checks notQueued notStored
    transient fun original given => (duplicate original given).2) ?_ written
    same
  intro old found
  rw [present] at found
  cases found
  refine ⟨rfl, List.suffix_cons _ _, fun original names => ?_⟩
  change duplicateOfSubmissionId.or row.duplicateOfSubmissionId =
    some original
  cases duplicateOfSubmissionId with
  | none => exact names
  | some given =>
      have copied := (SubmissionRow.satisfiesChecks_iff.mp
        kept.legal.checks).2.2.2.2.2.2 (by simp [names])
      rw [(duplicate given rfl).1] at moves
      rcases copied with isPermanent | isDeleted
      · rw [isPermanent] at moves
        contradiction
      · rw [isDeleted] at moves
        contradiction

/-- A queued submission has neither an asset nor an active image. -/
theorem Custody.unstored (holds : Custody noCancel before)
    (present : before (.submission id) = some row)
    (isQueued : row.state = .queued) : before (.asset id) = none := by
  cases found : before (.asset id) with
  | none => rfl
  | some asset =>
      obtain ⟨old, isOld, stored⟩ := holds.assets id asset found
      rw [present] at isOld
      cases isOld
      have history := ((holds.submissions id row present).queued isQueued).1
      simp [history] at stored

/-- The rows that storing a submission changes. -/
def storesRow (id accountId : Uuid) (contentSha256 : String) (key : BotKey) :
    Prop :=
  key = .submission id ∨ key = .asset id ∨
    key = .activeImage accountId contentSha256 ∨
    key = .job (extractDedupeKey id)

/-- The index of active images after a new asset. -/
theorem Custody.images_stored {asset : AssetRow} {accountId : Uuid}
    (holds : Custody noCancel before) (noAsset : before (.asset id) = none)
    (noImage : before (.activeImage accountId asset.image.contentSha256) =
      none)
    (owner : asset.accountId = accountId)
    (active : asset.deletionState = .active)
    (presentAsset : after (.asset id) = some asset)
    (image : after (.activeImage accountId asset.image.contentSha256) =
      some id)
    (same : SameBut (storesRow id accountId asset.image.contentSha256) before
      after) (otherAccount : Uuid) (contentSha256 : String) (other : Uuid) :
    after (.activeImage otherAccount contentSha256) = some other ↔
      ∃ found, after (.asset other) = some found ∧
        found.accountId = otherAccount ∧
        found.image.contentSha256 = contentSha256 ∧
        found.deletionState = .active := by
  have assets (different : other ≠ id) :
      after (.asset other) = before (.asset other) :=
    same (.asset other) trivial (by simpa [storesRow] using different)
  have indexed := holds.images otherAccount contentSha256 other
  by_cases isImage : otherAccount = accountId ∧
      contentSha256 = asset.image.contentSha256
  · obtain ⟨rfl, rfl⟩ := isImage
    rw [image]
    by_cases isId : other = id
    · subst isId
      exact ⟨fun _ => ⟨asset, presentAsset, owner, rfl, active⟩, fun _ => rfl⟩
    · rw [assets isId, ← indexed, noImage]
      simpa using fun isOther => isId isOther.symm
  · rw [same (.activeImage otherAccount contentSha256) trivial
      (by simpa [storesRow] using isImage)]
    by_cases isId : other = id
    · subst isId
      rw [indexed, noAsset, presentAsset]
      refine ⟨fun found => by simp at found, ?_⟩
      rintro ⟨found, isAsset, sameOwner, sameImage, _⟩
      cases isAsset
      exact absurd ⟨sameOwner.symm.trans owner, sameImage.symm⟩ isImage
    · rw [assets isId]
      exact indexed

/-- A queued submission is stored. -/
theorem Custody.stored {now : Timestamp} {asset : AssetRow} {job : JobRow}
    (holds : Custody noCancel before)
    (present : before (.submission id) = some row)
    (isQueued : row.state = .queued)
    (noImage : before (.activeImage row.accountId
      asset.image.contentSha256) = none)
    (checks : (row.transitioned now .stored none none none
      none).satisfiesChecks id = true)
    (owner : asset.accountId = row.accountId)
    (active : asset.deletionState = .active)
    (jobType : job.jobType = jobTypeExtract) (waits : job.Waits noCancel)
    (submission : after (.submission id) =
      some (row.transitioned now .stored none none none none))
    (presentAsset : after (.asset id) = some asset)
    (image : after (.activeImage row.accountId asset.image.contentSha256) =
      some id)
    (presentJob : after (.job (extractDedupeKey id)) = some job)
    (same : SameBut (storesRow id row.accountId asset.image.contentSha256)
      before after) :
    CustodyProgress noCancel before after := by
  have kept := holds.submissions id row present
  have noAsset := holds.unstored present isQueued
  have moves : canTransition row.state .stored = true := by rw [isQueued]; rfl
  have stored : WasStored after id :=
    ⟨_, submission, List.mem_cons_self⟩
  have supports : Supports noCancel before after := by
    refine same.supports (by simp [storesRow]) ?_ ?_
    · intro other touches accountId has
      obtain rfl : other = id := by simpa [storesRow] using touches
      obtain ⟨_, found, _⟩ := has
      rw [noAsset] at found
      contradiction
    · intro dedupeKey touches
      obtain rfl : dedupeKey = extractDedupeKey id := by
        simpa [storesRow] using touches
      exact ⟨job, presentJob, waits⟩
  have keptStored : SubmissionKept noCancel after id
      (row.transitioned now .stored none none none none) :=
    { legal := kept.legal.transitioned moves checks
      active := by
        rw [AccountActive, supports.accounts]
        exact kept.active
      accepted := nofun
      queued := nofun
      underway := fun _ => List.mem_cons_self
      stored := fun _ => ⟨⟨asset, presentAsset, owner⟩, by simp [presentJob]⟩
      awaits := fun _ => ⟨job, presentJob, waits⟩
      duplicate := fun original names =>
        supports.assets _ _ (kept.duplicate original names) }
  refine holds.changed (same.advances (by simp [storesRow]) ?_ ?_) ?_ ?_
    (holds.images_stored noAsset noImage owner active presentAsset image same)
    ?_ ?_
  · intro other touches found isFound
    obtain rfl : other = id := by simpa [storesRow] using touches
    rw [present] at isFound
    cases isFound
    exact ⟨_, submission, rfl, List.suffix_cons _ _, fun _ names => names⟩
  · intro other touches found isFound
    obtain rfl : other = id := by simpa [storesRow] using touches
    rw [noAsset] at isFound
    contradiction
  · intro other found isFound
    by_cases isId : other = id
    · subst isId
      rw [submission] at isFound
      cases isFound
      exact keptStored
    · rw [same (.submission other) trivial (by simpa [storesRow] using isId)]
        at isFound
      exact (holds.submissions other found isFound).supported supports
  · intro other found isFound
    by_cases isId : other = id
    · subst isId
      rw [presentAsset] at isFound
      cases isFound
      exact Or.inr ⟨active, stored⟩
    · exact Or.inl (same.assetPresent found isFound
        (by simpa [storesRow] using isId))
  · exact fun other found isFound => Or.inl (same.ingestJobs found isFound
      (by simpa [storesRow] using ingestDedupeKey_ne))
  · intro other found isFound
    by_cases isId : other = id
    · subst isId
      rw [presentJob] at isFound
      cases isFound
      exact Or.inr ⟨jobType, stored⟩
    · refine Or.inl (same.extractJobs found isFound ?_)
      simpa [storesRow] using fun same => isId (extractDedupeKey_inj same)

/-- The rows that accepting a submission changes. -/
def acceptsRow (id : Uuid) (key : BotKey) : Prop :=
  key = .submission id ∨ key = .job (ingestDedupeKey id)

/-- A submission is accepted. -/
theorem Custody.accepted {job : JobRow} (holds : Custody noCancel before)
    (absent : before (.submission id) = none)
    (legal : row.Legal id) (active : AccountActive before row.accountId)
    (isQueued : row.state = .queued)
    (history : row.history = [.queued, .pending])
    (fresh : row.duplicateOfSubmissionId = none)
    (jobType : job.jobType = jobTypeIngest) (waits : job.Waits noCancel)
    (submission : after (.submission id) = some row)
    (presentJob : after (.job (ingestDedupeKey id)) = some job)
    (same : SameBut (acceptsRow id) before after) :
    CustodyMoves noCancel before after := by
  have supports : Supports noCancel before after := by
    refine same.supports (by simp [acceptsRow]) (by simp [acceptsRow]) ?_
    intro dedupeKey touches
    obtain rfl : dedupeKey = ingestDedupeKey id := by
      simpa [acceptsRow] using touches
    exact ⟨job, presentJob, waits⟩
  have kept : SubmissionKept noCancel after id row :=
    { legal := legal
      active := by
        rw [AccountActive, supports.accounts]
        exact active
      accepted := by simp [isQueued]
      queued := fun _ => ⟨history, job, presentJob, waits⟩
      underway := by simp [isQueued, ReceiptState.hasBeenStored]
      stored := by simp [history]
      awaits := by simp [isQueued, ReceiptState.awaitsExtraction]
      duplicate := by simp [fresh] }
  refine holds.rearranged (same.advances (by simp [acceptsRow]) ?_
    (by simp [acceptsRow])) ?_ ?_
    (same.images holds (by simp [acceptsRow]) (by simp [acceptsRow])) ?_ ?_
  · intro other touches found isFound
    obtain rfl : other = id := by simpa [acceptsRow] using touches
    rw [absent] at isFound
    contradiction
  · intro other found isFound
    by_cases isId : other = id
    · subst isId
      rw [submission] at isFound
      cases isFound
      exact kept
    · rw [same (.submission other) trivial (by simpa [acceptsRow] using isId)]
        at isFound
      exact (holds.submissions other found isFound).supported supports
  · exact fun other asset present =>
      same.assetPresent asset present (by simp [acceptsRow])
  · intro other found isFound
    by_cases isId : other = id
    · subst isId
      rw [presentJob] at isFound
      cases isFound
      exact Or.inr ⟨jobType, by simp [submission]⟩
    · refine Or.inl (same.ingestJobs found isFound ?_)
      simpa [acceptsRow] using fun same => isId (ingestDedupeKey_inj same)
  · exact fun other found isFound => Or.inl (same.extractJobs found isFound
      (by simpa [acceptsRow] using ingestDedupeKey_ne.symm))

/-- The rows that deleting an original changes. -/
def deletesRow (id accountId : Uuid) (contentSha256 : String)
    (key : BotKey) : Prop :=
  key = .asset id ∨ key = .activeImage accountId contentSha256

/-- The index of active images after a deletion. -/
theorem Custody.images_deleted {asset deleted : AssetRow}
    (holds : Custody noCancel before)
    (present : before (.asset id) = some asset)
    (active : asset.deletionState = .active)
    (isDeleted : deleted.deletionState = .deleted)
    (presentAsset : after (.asset id) = some deleted)
    (image : after (.activeImage asset.accountId
      asset.image.contentSha256) = none)
    (same : SameBut (deletesRow id asset.accountId
      asset.image.contentSha256) before after) (accountId : Uuid)
    (contentSha256 : String) (other : Uuid) :
    after (.activeImage accountId contentSha256) = some other ↔
      ∃ found, after (.asset other) = some found ∧
        found.accountId = accountId ∧
        found.image.contentSha256 = contentSha256 ∧
        found.deletionState = .active := by
  have own := (holds.images asset.accountId asset.image.contentSha256 id).mpr
    ⟨asset, present, rfl, rfl, active⟩
  have assets (different : other ≠ id) :
      after (.asset other) = before (.asset other) :=
    same (.asset other) trivial (by simpa [deletesRow] using different)
  have indexed := holds.images accountId contentSha256 other
  by_cases isId : other = id
  · subst isId
    constructor
    · intro names
      exfalso
      by_cases isImage : accountId = asset.accountId ∧
          contentSha256 = asset.image.contentSha256
      · obtain ⟨rfl, rfl⟩ := isImage
        rw [image] at names
        contradiction
      · rw [same (.activeImage accountId contentSha256) trivial
          (by simpa [deletesRow] using isImage), indexed] at names
        obtain ⟨found, isFound, sameOwner, sameImage, _⟩ := names
        rw [present] at isFound
        cases isFound
        exact isImage ⟨sameOwner.symm, sameImage.symm⟩
    · rintro ⟨found, isFound, _, _, isActive⟩
      rw [presentAsset] at isFound
      cases isFound
      rw [isDeleted] at isActive
      contradiction
  · rw [assets isId, ← indexed]
    by_cases isImage : accountId = asset.accountId ∧
        contentSha256 = asset.image.contentSha256
    · obtain ⟨rfl, rfl⟩ := isImage
      rw [image, own]
      simpa using fun isOther => isId isOther.symm
    · rw [same (.activeImage accountId contentSha256) trivial
        (by simpa [deletesRow] using isImage)]

/-- An original is deleted. -/
theorem Custody.originalDeleted {asset deleted : AssetRow}
    (holds : Custody noCancel before)
    (present : before (.asset id) = some asset)
    (active : asset.deletionState = .active)
    (isDeleted : deleted.deletionState = .deleted)
    (owner : deleted.accountId = asset.accountId)
    (sameImage : deleted.image = asset.image)
    (presentAsset : after (.asset id) = some deleted)
    (image : after (.activeImage asset.accountId
      asset.image.contentSha256) = none)
    (same : SameBut (deletesRow id asset.accountId
      asset.image.contentSha256) before after) :
    CustodyMoves noCancel before after := by
  have supports : Supports noCancel before after := by
    refine same.supports (by simp [deletesRow]) ?_ (by simp [deletesRow])
    rintro other touches accountId ⟨found, isFound, foundOwner⟩
    obtain rfl : other = id := by simpa [deletesRow] using touches
    rw [present] at isFound
    cases isFound
    exact ⟨deleted, presentAsset, owner.trans foundOwner⟩
  refine holds.rearranged (same.advances (by simp [deletesRow])
    (by simp [deletesRow]) ?_) ?_ ?_
    (holds.images_deleted present active isDeleted presentAsset image same)
    ?_ ?_
  · intro other touches found isFound
    obtain rfl : other = id := by simpa [deletesRow] using touches
    rw [present] at isFound
    cases isFound
    exact ⟨deleted, presentAsset, owner, sameImage⟩
  · intro other found isFound
    rw [same (.submission other) trivial (by simp [deletesRow])] at isFound
    exact (holds.submissions other found isFound).supported supports
  · intro other found isFound
    by_cases isId : other = id
    · subst isId
      simp [present]
    · exact same.assetPresent found isFound
        (by simpa [deletesRow] using isId)
  · exact fun other found isFound =>
      Or.inl (same.ingestJobs found isFound (by simp [deletesRow]))
  · exact fun other found isFound =>
      Or.inl (same.extractJobs found isFound (by simp [deletesRow]))

/-- A job changes.  It may stop waiting only if no submission needs it. -/
theorem Custody.jobChanged {dedupeKey : String} {job changed : JobRow}
    (holds : Custody noCancel before)
    (present : before (.job dedupeKey) = some job)
    (sameType : changed.jobType = job.jobType)
    (ingests : ∀ id row, dedupeKey = ingestDedupeKey id →
      before (.submission id) = some row → row.state = .queued →
        changed.Waits noCancel)
    (extracts : ∀ id row, dedupeKey = extractDedupeKey id →
      before (.submission id) = some row →
      row.state.awaitsExtraction = true → changed.Waits noCancel)
    (written : after (.job dedupeKey) = some changed)
    (same : SameBut (· = .job dedupeKey) before after) :
    CustodyMoves noCancel before after := by
  have submissions (id : Uuid) :=
    same (.submission id) trivial (by simp)
  have assets (id : Uuid) := same (.asset id) trivial (by simp)
  have accounts (id : Uuid) := same (.account id) trivial (by simp)
  have jobs (other : String) (inCustody : (BotKey.job other).InCustody)
      (different : other ≠ dedupeKey) :
      after (.job other) = before (.job other) :=
    same (.job other) inCustody (by simpa using different)
  have kept (id : Uuid) (row : SubmissionRow)
      (found : before (.submission id) = some row) :
      SubmissionKept noCancel after id row := by
    have old := holds.submissions id row found
    refine ⟨old.legal, ?_, old.accepted, ?_, old.underway, ?_, ?_, ?_⟩
    · rw [AccountActive, accounts]
      exact old.active
    · intro isQueued
      refine ⟨(old.queued isQueued).1, ?_⟩
      by_cases isKey : ingestDedupeKey id = dedupeKey
      · rw [isKey]
        exact ⟨changed, written, ingests id row isKey.symm found isQueued⟩
      · rw [JobWaits, jobs _ (inCustody_ingest id) isKey]
        exact (old.queued isQueued).2
    · intro stored
      rw [HasAsset, assets]
      refine ⟨(old.stored stored).1, ?_⟩
      by_cases isKey : extractDedupeKey id = dedupeKey
      · rw [isKey, written]
        rfl
      · rw [jobs _ (inCustody_extract id) isKey]
        exact (old.stored stored).2
    · intro waiting
      by_cases isKey : extractDedupeKey id = dedupeKey
      · rw [isKey]
        exact ⟨changed, written, extracts id row isKey.symm found waiting⟩
      · rw [JobWaits, jobs _ (inCustody_extract id) isKey]
        exact old.awaits waiting
    · intro original names
      rw [HasAsset, assets]
      exact old.duplicate original names
  have typed (other : String) (inCustody : (BotKey.job other).InCustody)
      (found : JobRow) (isFound : after (.job other) = some found) :
      ∃ old, before (.job other) = some old ∧
        found.jobType = old.jobType := by
    by_cases isKey : other = dedupeKey
    · subst isKey
      rw [written] at isFound
      cases isFound
      exact ⟨job, present, sameType⟩
    · exact ⟨found, (jobs other inCustody isKey).symm.trans isFound, rfl⟩
  refine holds.rearranged (same.advances (by simp) (by simp) (by simp)) ?_ ?_
    (same.images holds (by simp) (by simp)) ?_ ?_
  · intro id row found
    rw [submissions] at found
    exact kept id row found
  · exact fun id asset found =>
      same.assetPresent asset found (by simp)
  · exact fun id found isFound =>
      Or.inl (typed _ (inCustody_ingest id) found isFound)
  · exact fun id found isFound =>
      Or.inl (typed _ (inCustody_extract id) found isFound)

end Changes

end ZaloBot
