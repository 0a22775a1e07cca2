import Mathlib.Data.Set.Card
import ZaloBot.SessionSolo
import ZaloBot.WorkerReceipts

/-!
# Maintenance passes

A maintenance pass expires reviews and then sweeps assets whose retention
deadline has passed.  Both calls select a batch in the order of their deadline,
up to any positive limit.  Passes that run alone either delete a due asset or
make progress on other rows, of which there are finitely many, as long as its
submission has finished or its review has expired.  Submissions that came to
rest anywhere else are never selected.
-/

namespace ZaloBot

open Sessions LabelledRuns TaskPool

namespace Retention

open Receipts

/-- What a statement with an order and a limit selects. -/
structure SelectsBatch {Entry : Type} (eligible : Entry → Prop)
    (rank : Entry → Timestamp) (limit : Int) (batch : List Entry) :
    Prop where
  distinct : batch.Nodup
  sound : ∀ entry ∈ batch, eligible entry
  sorted : batch.Pairwise fun first second => rank first ≤ rank second
  bounded : batch.length ≤ limit.toNat
  full : ∀ entry, eligible entry → entry ∉ batch →
    batch.length = limit.toNat ∧
      ∀ selected ∈ batch, rank selected ≤ rank entry

namespace SelectsBatch

variable {Entry : Type} {eligible : Entry → Prop} {rank : Entry → Timestamp}
variable {limit : Int} {batch : List Entry}

/-- A batch is empty only if nothing is eligible. -/
theorem exists_mem (selects : SelectsBatch eligible rank limit batch)
    (positive : 0 < limit) {entry : Entry} (isEligible : eligible entry) :
    ∃ selected, selected ∈ batch := by
  by_cases member : entry ∈ batch
  · exact ⟨entry, member⟩
  · have length := (selects.full entry isEligible member).1
    exact List.exists_mem_of_length_pos (by omega)

theorem take_eq (selects : SelectsBatch eligible rank limit batch) :
    batch.take limit.toNat = batch :=
  List.take_of_length_le selects.bounded

/-- Finitely many eligible rows have a batch. -/
theorem exists_of_finite (finite : {entry | eligible entry}.Finite) :
    ∃ batch, SelectsBatch eligible rank limit batch := by
  classical
  let before (first second : Entry) : Bool :=
    decide (rank first ≤ rank second)
  let entries := finite.toFinset.toList.mergeSort before
  have member (entry : Entry) : entry ∈ entries ↔ eligible entry := by
    simp [entries]
  have sorted : entries.Pairwise fun first second =>
      rank first ≤ rank second := by
    have transitive (first second third : Entry)
        (begins : before first second = true)
        (ends : before second third = true) :
        before first third = true := by
      simp only [before, decide_eq_true_eq] at begins ends ⊢
      exact Int.le_trans begins ends
    have total (first second : Entry) :
        (before first second || before second first) = true := by
      simp only [before, Bool.or_eq_true, decide_eq_true_eq]
      exact Int.le_total _ _
    have ordered : entries.Pairwise fun first second =>
        before first second = true :=
      List.pairwise_mergeSort transitive total _
    simpa [before] using ordered
  have distinct : entries.Nodup :=
    (List.mergeSort_perm _ _).nodup_iff.mpr (Finset.nodup_toList _)
  refine ⟨entries.take limit.toNat, ?_, ?_, ?_, ?_, ?_⟩
  · exact distinct.sublist (List.take_sublist _ _)
  · exact fun entry taken => (member entry).mp (List.mem_of_mem_take taken)
  · exact sorted.sublist (List.take_sublist _ _)
  · simp
  · intro entry isEligible missing
    have present := (member entry).mpr isEligible
    rw [← List.take_append_drop limit.toNat entries] at present sorted
    have dropped := (List.mem_append.mp present).resolve_left missing
    have longer : limit.toNat < entries.length := by
      by_contra short
      rw [List.drop_eq_nil_of_le (by omega)] at dropped
      contradiction
    refine ⟨by simp; omega, fun selected taken => ?_⟩
    exact (List.pairwise_append.mp sorted).2.2 selected taken entry dropped

end SelectsBatch

/-- A review that `expire_reviews` may select: the submission and its
account. -/
def ExpiredReview (now : Timestamp) (store : BotStore)
    (entry : Uuid × Uuid) : Prop :=
  ∃ row, store (.submission entry.1) = some row ∧
    row.accountId = entry.2 ∧ row.state = .reviewRequired ∧
    ∃ expiry, row.reviewExpiresAt = some expiry ∧ expiry ≤ now

/-- `review_expires_at`. -/
def reviewExpiry (store : BotStore) (entry : Uuid × Uuid) : Timestamp :=
  ((store (.submission entry.1)).bind SubmissionRow.reviewExpiresAt).getD 0

/-- The states that `retention_sweep` selects. -/
def isSwept : ReceiptState → Bool
  | .confirmed | .rejected | .expired | .failedPermanent => true
  | _ => false

theorem isSwept_iff {state : ReceiptState} :
    isSwept state = true ↔
      ((state = .confirmed ∨ state = .rejected) ∨ state = .expired) ∨
        state = .failedPermanent := by
  cases state <;> simp [isSwept]

/-- An asset that `retention_sweep` may select; its foreign key makes the
accounts agree. -/
def DueAsset (now : Timestamp) (store : BotStore) (id : Uuid) : Prop :=
  (∃ row, store (.submission id) = some row ∧ isSwept row.state = true) ∧
  ∃ asset, store (.asset id) = some asset ∧
    asset.deletionState = .active ∧ asset.retentionDeadline ≤ now

/-- `retention_deadline`. -/
def assetDeadline (store : BotStore) (id : Uuid) : Timestamp :=
  ((store (.asset id)).map AssetRow.retentionDeadline).getD 0

/-- A successful pass from some time on, with nothing running beside it. -/
def MaintenancePass (since : Timestamp) (before after : BotStore) : Prop :=
  ∃ expiredAt sweptAt expireLimit sweepLimit reviews assets objectStoreError
    expired swept middle,
    since ≤ expiredAt ∧ since ≤ sweptAt ∧
    0 < expireLimit ∧ 0 < sweepLimit ∧
    SelectsBatch (ExpiredReview expiredAt before) (reviewExpiry before)
      expireLimit reviews ∧
    RunsAlone (expireReviews expiredAt expireLimit reviews) before expired
      middle ∧
    SelectsBatch (DueAsset sweptAt middle) (assetDeadline middle) sweepLimit
      assets ∧
    RunsAlone (retentionSweep sweptAt objectStoreError sweepLimit assets)
      middle swept after

/-- A number of passes in a row. -/
inductive MaintenancePasses (since : Timestamp) (before : BotStore) :
    Nat → BotStore → Prop where
  | none : MaintenancePasses since before 0 before
  | more {count : Nat} {middle after : BotStore}
      (passes : MaintenancePasses since before count middle)
      (pass : MaintenancePass since middle after) :
      MaintenancePasses since before (count + 1) after

section Expiry

variable {own : Overlay BotRow} {store : BotStore} {now : Timestamp}

/-- Rows that are changed outside the database. -/
def isObject (key : BotKey) : Prop :=
  ∃ objectKey, key = .object objectKey

/-- The rows of `expire_reviews`. -/
def expireAll (now : Timestamp) (ids : List Uuid) (store : BotStore) :
    BotStore
  | .submission id =>
      if id ∈ ids then
        (store (.submission id)).map
          (SubmissionRow.transitioned now .expired none none none none)
      else
        store (.submission id)
  | key => store key

theorem executes_transitionState {id accountId : Uuid}
    {next : ReceiptState} {row : SubmissionRow}
    {failureErrorClass : Option String} {reviewExpiryHours : Option Int}
    {confirmedExpenseId duplicateOfSubmissionId : Option Uuid}
    (present : own.view store (.submission id) = some row)
    (owner : row.accountId = accountId)
    (legal : canTransition row.state next = true)
    (checks : (row.transitioned now next failureErrorClass reviewExpiryHours
      confirmedExpenseId duplicateOfSubmissionId).satisfiesChecks id =
        true) :
    Executes isObject (transitionState now id accountId row.state next
        failureErrorClass reviewExpiryHours confirmedExpenseId
        duplicateOfSubmissionId : Operation Unit) own store ()
      (own.set (.submission id) (some (row.transitioned now next
        failureErrorClass reviewExpiryHours confirmedExpenseId
        duplicateOfSubmissionId))) store := by
  rintro database rfl alone
  unfold transitionState
  rw [if_pos legal, endsAlone_bind]
  have selected : (own.view database.store (.submission id)).any
      (fun found => found.accountId = accountId && found.state = row.state) =
        true := by
    simp [present, owner]
  have filtered : (own.view database.store (.submission id)).filter
      (fun found => found.accountId = accountId && found.state = row.state) =
        some row := by
    simp [present, owner]
  unfold Session.selectForUpdate endsAlone
  dsimp only
  rw [if_pos selected]
  refine ⟨alone.lockable, ?_⟩
  rw [filtered]
  change endsAlone (if _ then _ else _) _ _ _
  rw [if_pos checks]
  exact ⟨writable_lock, rfl, rfl, rfl, alone.lock (by rintro ⟨_, ⟨⟩⟩)⟩

theorem executes_loadSubmissionForUpdate {id accountId : Uuid}
    {row : SubmissionRow}
    (present : own.view store (.submission id) = some row)
    (owner : row.accountId = accountId) :
    Executes isObject (loadSubmissionForUpdate id accountId :
      Operation SubmissionRow) own store row own store := by
  refine .bind (executes_selectForUpdate nofun) ?_
  simp only [present, Option.filter_some, owner, decide_true, if_true]
  exact executes_pure

/-- Expiry of a review is a legal move. -/
theorem legal_expired {id : Uuid} {row : SubmissionRow}
    (legal : row.Legal id) (inReview : row.state = .reviewRequired) :
    (row.transitioned now .expired none none none none).Legal id := by
  have moves : canTransition row.state .expired = true := by rw [inReview]; rfl
  exact legal.transitioned moves (SubmissionRow.satisfiesChecks_transitioned
    legal.checks moves (by simp) (by simp) (by simp))

theorem executes_expireReview {id accountId : Uuid} {row : SubmissionRow}
    (present : own.view store (.submission id) = some row)
    (legal : row.Legal id) (owner : row.accountId = accountId)
    (inReview : row.state = .reviewRequired)
    (due : row.reviewExpiresAt.any (· ≤ now) = true) :
    Executes isObject (expireReview now id accountId) own store true
      (own.set (.submission id)
        (some (row.transitioned now .expired none none none none)))
      store := by
  refine .bind (executes_selectForUpdate nofun) ?_
  simp only [present, Option.filter_some, owner, inReview, due, decide_true,
    Bool.and_self, if_true]
  refine .bind (executes_loadSubmissionForUpdate present owner) ?_
  rw [if_neg (by simp [inReview])]
  have moves : canTransition row.state .expired = true := by rw [inReview]; rfl
  have transitions : Executes isObject (transitionState now id accountId
      row.state .expired none none none none : Operation Unit) own store ()
      (own.set (.submission id)
        (some (row.transitioned now .expired none none none none))) store :=
    executes_transitionState present owner moves
      (legal_expired legal inReview).checks
  rw [inReview] at transitions
  exact .bind transitions executes_pure

theorem expireAll_nil : expireAll now [] store = store := by
  funext key
  cases key <;> simp [expireAll]

/-- One review after the other. -/
theorem expireAll_cons {id : Uuid} {ids : List Uuid} {row : SubmissionRow}
    (present : store (.submission id) = some row) (fresh : id ∉ ids) :
    expireAll now ids (Function.update store (.submission id)
        (some (row.transitioned now .expired none none none none))) =
      expireAll now (id :: ids) store := by
  funext key
  cases key with
  | submission other =>
      by_cases same : other = id
      · subst same
        simp [expireAll, present, fresh]
      · simp [expireAll, same]
  | _ => simp [expireAll]

theorem executes_expireCandidates (entries : List (Uuid × Uuid))
    (distinct : (entries.map Prod.fst).Nodup)
    (reviews : ∀ entry ∈ entries,
      ExpiredReview now (own.view store) entry)
    (legal : ∀ id row, own.view store (.submission id) = some row →
      row.Legal id) :
    ∃ last, Executes isObject (expireCandidates now entries) own store
        entries.length last store ∧
      last.view store =
        expireAll now (entries.map Prod.fst) (own.view store) := by
  induction entries generalizing own with
  | nil => exact ⟨own, executes_pure, expireAll_nil.symm⟩
  | cons entry entries ih =>
      obtain ⟨id, accountId⟩ := entry
      obtain ⟨row, present, owner, inReview, expiry, expires, due⟩ :=
        reviews (id, accountId) List.mem_cons_self
      simp only [List.map_cons, List.nodup_cons] at distinct
      have isLegal := legal id row present
      have begins : Executes isObject (expireReview now id accountId) own
          store true (own.set (.submission id) (some (row.transitioned now
            .expired none none none none))) store :=
        executes_expireReview present isLegal owner inReview
          (by simp [expires, due])
      have continues := @ih (own.set (.submission id)
        (some (row.transitioned now .expired none none none none)))
        distinct.2 ?_ ?_
      · obtain ⟨last, ends, viewed⟩ := continues
        refine ⟨last, .bind begins (.bind ends executes_pure), ?_⟩
        rw [viewed, Overlay.set_view]
        exact expireAll_cons present distinct.1
      · intro other member
        obtain ⟨otherRow, otherPresent, facts⟩ :=
          reviews other (List.mem_cons_of_mem _ member)
        refine ⟨otherRow, ?_, facts⟩
        rwa [Overlay.set_view_other]
        rintro same
        have sameId : other.1 = id := by simpa using same
        exact distinct.1 (sameId ▸ List.mem_map_of_mem member)
      · intro other otherRow otherPresent
        by_cases same : other = id
        · subst same
          rw [Overlay.set_view_self] at otherPresent
          cases otherPresent
          exact legal_expired isLegal inReview
        · rw [Overlay.set_view_other (by simpa using same)] at otherPresent
          exact legal other otherRow otherPresent

/-- A batch of reviews names every submission once. -/
theorem distinct_reviews {entries : List (Uuid × Uuid)}
    (distinct : entries.Nodup)
    (reviews : ∀ entry ∈ entries, ExpiredReview now store entry) :
    (entries.map Prod.fst).Nodup := by
  refine distinct.map_on fun first firstMember second secondMember same => ?_
  obtain ⟨row, present, owner, _⟩ := reviews first firstMember
  obtain ⟨other, otherPresent, otherOwner, _⟩ := reviews second secondMember
  rw [same, otherPresent] at present
  cases present
  exact Prod.ext same (owner.symm.trans otherOwner)

/-- `expire_reviews` alone. -/
theorem executes_expireReviews {limit : Int}
    {entries : List (Uuid × Uuid)} (positive : 0 < limit)
    (selects : SelectsBatch (ExpiredReview now store) (reviewExpiry store)
      limit entries)
    (legal : ∀ id row, store (.submission id) = some row → row.Legal id) :
    Executes isObject (expireReviews now limit entries) Overlay.none store
      entries.length Overlay.none
      (expireAll now (entries.map Prod.fst) store) := by
  have expires : ∃ last, Executes isObject (expireCandidates now entries)
      Overlay.none store entries.length last store ∧
        last.view store = expireAll now (entries.map Prod.fst) store :=
    executes_expireCandidates entries
      (distinct_reviews selects.distinct selects.sound) selects.sound legal
  obtain ⟨last, executes, viewed⟩ := expires
  unfold expireReviews
  rw [if_neg (by omega), selects.take_eq]
  refine .bind executes (.bind executes_commitTransaction ?_)
  rw [viewed]
  exact executes_pure

end Expiry

section Sweep

variable {own : Overlay BotRow} {store : BotStore} {now : Timestamp}

/-- An asset whose original has been deleted. -/
def markDeleted (now : Timestamp) (asset : AssetRow) : AssetRow :=
  { asset with
    deletionState := .deleted
    originalDeletedAt := some now }

/-- What `retention_sweep` does to assets and submissions. -/
structure Swept (now : Timestamp) (ids : List Uuid)
    (before after : BotStore) : Prop where
  assets : ∀ id, after (.asset id) =
    if id ∈ ids then (before (.asset id)).map (markDeleted now)
    else before (.asset id)
  submissions : ∀ id, after (.submission id) = before (.submission id)

namespace Swept

variable {before middle after : BotStore} {id : Uuid} {ids : List Uuid}

theorem nil (assets : ∀ id, after (.asset id) = before (.asset id))
    (submissions : ∀ id, after (.submission id) = before (.submission id)) :
    Swept now [] before after :=
  ⟨fun id => by simp [assets id], submissions⟩

theorem cons (begins : Swept now [id] before middle)
    (ends : Swept now ids middle after) (fresh : id ∉ ids) :
    Swept now (id :: ids) before after where
  assets other := by
    rw [ends.assets, begins.assets]
    by_cases same : other = id
    · subst same
      simp [fresh]
    · simp [same]
  submissions other :=
    (ends.submissions other).trans (begins.submissions other)

theorem trans_left (same : Swept now [] before middle)
    (ends : Swept now ids middle after) : Swept now ids before after where
  assets other := by
    rw [ends.assets, same.assets]
    simp
  submissions other :=
    (ends.submissions other).trans (same.submissions other)

end Swept

theorem executes_markAssetDeleted {id : Uuid} {asset : AssetRow}
    {failed : ReceiptFailure}
    (present : own.view store (.asset id) = some asset)
    (active : asset.deletionState = .active) :
    ∃ last, Executes isObject (markAssetDeleted now failed id :
        Operation Unit) own store () last store ∧
      Swept now [id] (own.view store) (last.view store) := by
  refine ⟨(own.set (.asset id) (some (markDeleted now asset))).set
    (.activeImage asset.accountId asset.image.contentSha256) none, ?_, ?_⟩
  · rintro database rfl alone
    have selected : (own.view database.store (.asset id)).any
        (fun found => found.deletionState = .active) = true := by
      simp [present, active]
    have filtered : (own.view database.store (.asset id)).filter
        (fun found => found.deletionState = .active) = some asset := by
      simp [present, active]
    unfold markAssetDeleted
    rw [endsAlone_bind]
    unfold Session.selectForUpdate endsAlone
    dsimp only
    rw [if_pos selected]
    refine ⟨alone.lockable, ?_⟩
    rw [filtered]
    have aloneNext : HeldAlone isObject
        (⟨0, .asset id, .exclusive⟩ :: database.locks) :=
      alone.lock (by rintro ⟨_, ⟨⟩⟩)
    refine ⟨writable_lock, ?_⟩
    refine ⟨HeldAlone.lockable aloneNext, writable_lock, rfl, rfl, rfl, ?_⟩
    exact aloneNext.lock (by rintro ⟨_, ⟨⟩⟩)
  · constructor
    · intro other
      rw [Overlay.set_view_other (by simp)]
      by_cases same : other = id
      · subst same
        simp [present]
      · rw [Overlay.set_view_other (by simpa using same)]
        simp [same]
    · intro other
      rw [Overlay.set_view_other (by simp), Overlay.set_view_other (by simp)]

theorem executes_markAssetsDeleted (ids : List Uuid) (distinct : ids.Nodup)
    (active : ∀ id ∈ ids, ∃ asset, own.view store (.asset id) = some asset ∧
      asset.deletionState = .active) :
    ∃ last, Executes isObject (markAssetsDeleted now ids) own store () last
        store ∧
      Swept now ids (own.view store) (last.view store) := by
  induction ids generalizing own with
  | nil => exact ⟨own, executes_pure, .nil (fun _ => rfl) fun _ => rfl⟩
  | cons id ids ih =>
      simp only [List.nodup_cons] at distinct
      obtain ⟨asset, present, isActive⟩ := active id List.mem_cons_self
      have marks : ∃ middle, Executes isObject (markAssetDeleted now
          (.dependency "retention claim update failed") id : Operation Unit)
          own store () middle store ∧
            Swept now [id] (own.view store) (middle.view store) :=
        executes_markAssetDeleted present isActive
      obtain ⟨middle, begins, marked⟩ := marks
      have others : ∀ other ∈ ids, ∃ asset,
          middle.view store (.asset other) = some asset ∧
            asset.deletionState = .active := by
        intro other member
        have different : other ≠ id := by
          rintro rfl
          exact distinct.1 member
        rw [marked.assets, if_neg (by simpa using different)]
        exact active other (List.mem_cons_of_mem _ member)
      obtain ⟨last, ends, swept⟩ := ih distinct.2 others
      exact ⟨last, .bind begins ends, marked.cons swept distinct.1⟩

theorem executes_sweepCandidates (ids : List Uuid)
    (due : ∀ id ∈ ids, DueAsset now store id) :
    ∃ rows, Executes isObject (sweepCandidates now ids) Overlay.none store
        rows Overlay.none store ∧ rows.map Prod.fst = ids := by
  induction ids with
  | nil => exact ⟨[], executes_pure, rfl⟩
  | cons id ids ih =>
      obtain ⟨⟨row, present, finished⟩, asset, presentAsset, active, deadline⟩ :=
        due id List.mem_cons_self
      obtain ⟨rows, executes, names⟩ := ih fun other member =>
        due other (List.mem_cons_of_mem _ member)
      refine ⟨(id, asset.objectKey) :: rows, ?_, by simp [names]⟩
      refine .bind executes_query (.bind (executes_selectForUpdate nofun)
        (.bind executes ?_))
      have isFinished : (store (.submission id)).any (fun row =>
          row.state = .confirmed || row.state = .rejected ||
            row.state = .expired || row.state = .failedPermanent) = true := by
        simpa [present] using isSwept_iff.mp finished
      simp only [Overlay.none_view, isFinished, presentAsset, active, deadline,
        Option.filter_some, decide_true, Bool.and_self, if_true]
      exact executes_pure

theorem executes_deleteObjects {objectStoreError : StoreError}
    (objectKeys : List String) :
    ∃ after, Executes isObject (deleteObjects objectStoreError objectKeys) own
        store () own after ∧
      ∀ key, ¬ isObject key → after key = store key := by
  induction objectKeys generalizing store with
  | nil => exact ⟨store, executes_pure, fun _ _ => rfl⟩
  | cons objectKey objectKeys ih =>
      obtain ⟨after, executes, same⟩ := @ih
        (Function.update store (.object objectKey) none)
      refine ⟨after, .bind (executes_emit ⟨objectKey, rfl⟩) executes, ?_⟩
      intro key notObject
      rw [same key notObject]
      refine Function.update_of_ne ?_ _ _
      rintro rfl
      exact notObject ⟨objectKey, rfl⟩

/-- `retention_sweep` alone. -/
theorem executes_retentionSweep {limit : Int} {ids : List Uuid}
    {objectStoreError : StoreError} (positive : 0 < limit)
    (selects : SelectsBatch (DueAsset now store) (assetDeadline store) limit
      ids) :
    ∃ count after, Executes isObject
        (retentionSweep now objectStoreError limit ids) Overlay.none store
        count Overlay.none after ∧ Swept now ids store after := by
  obtain ⟨rows, reads, names⟩ := executes_sweepCandidates ids selects.sound
  obtain ⟨middle, deletes, same⟩ := @executes_deleteObjects Overlay.none store
    objectStoreError (rows.map Prod.snd)
  have untouched : Swept now [] store middle :=
    .nil (fun _ => same _ nofun) fun _ => same _ nofun
  have active : ∀ id ∈ ids, ∃ asset,
      Overlay.none.view middle (.asset id) = some asset ∧
        asset.deletionState = .active := by
    intro id member
    obtain ⟨_, asset, present, isActive, _⟩ := selects.sound id member
    exact ⟨asset, (same (.asset id) nofun).trans present, isActive⟩
  have marking : ∃ last, Executes isObject (markAssetsDeleted now ids)
      Overlay.none middle () last middle ∧
        Swept now ids (Overlay.none.view middle) (last.view middle) :=
    executes_markAssetsDeleted ids selects.distinct active
  obtain ⟨last, marks, swept⟩ := marking
  refine ⟨rows.length, last.view middle, ?_, untouched.trans_left swept⟩
  unfold retentionSweep
  rw [if_neg (by omega), selects.take_eq]
  rw [← names] at marks
  exact .bind reads (.bind deletes (.bind marks
    (.bind executes_commitTransaction executes_pure)))

end Sweep

section Passes

variable {store before after : BotStore} {since : Timestamp} {id : Uuid}

/-- What passes need of a store. -/
structure Orderly (store : BotStore) : Prop where
  legal : ∀ id row, store (.submission id) = some row → row.Legal id
  submissions : {id | store (.submission id) ≠ none}.Finite
  assets : {id | store (.asset id) ≠ none}.Finite

/-- What a pass has done to submissions and assets. -/
structure Passed (since : Timestamp) (before after : BotStore)
    (expiredAt sweptAt : Timestamp) (reviews assets : List Uuid) : Prop where
  expires : since ≤ expiredAt
  sweeps : since ≤ sweptAt
  reviewed : ∀ id ∈ reviews, ∃ accountId,
    ExpiredReview expiredAt before (id, accountId)
  reviewsAny : ∀ entry, ExpiredReview expiredAt before entry →
    ∃ id, id ∈ reviews
  due : ∀ id ∈ assets, DueAsset sweptAt (expireAll expiredAt reviews before) id
  sweepsAny : ∀ id, DueAsset sweptAt (expireAll expiredAt reviews before) id →
    ∃ id, id ∈ assets
  swept : Swept sweptAt assets (expireAll expiredAt reviews before) after

theorem Orderly.passed (orderly : Orderly before)
    (pass : MaintenancePass since before after) :
    ∃ expiredAt sweptAt reviews assets,
      Passed since before after expiredAt sweptAt reviews assets := by
  obtain ⟨expiredAt, sweptAt, expireLimit, sweepLimit, entries, assets,
    objectStoreError, expired, swept, middle, expires, sweeps, expirePositive,
    sweepPositive, selectsReviews, ranExpiry, selectsAssets, ranSweep⟩ := pass
  obtain ⟨rfl, rfl⟩ := (executes_expireReviews expirePositive selectsReviews
    orderly.legal).unique ranExpiry
  have sweeping : ∃ count final, Executes isObject (retentionSweep sweptAt
      objectStoreError sweepLimit assets) Overlay.none _ count Overlay.none
      final ∧ Swept sweptAt assets _ final :=
    executes_retentionSweep sweepPositive selectsAssets
  obtain ⟨count, final, executes, isSwept⟩ := sweeping
  obtain ⟨rfl, rfl⟩ := executes.unique ranSweep
  refine ⟨expiredAt, sweptAt, entries.map Prod.fst, assets, expires, sweeps,
    ?_, ?_, selectsAssets.sound, ?_, isSwept⟩
  · intro id member
    obtain ⟨⟨other, accountId⟩, selected, rfl⟩ := List.mem_map.mp member
    exact ⟨accountId, selectsReviews.sound _ selected⟩
  · intro entry isEligible
    obtain ⟨selected, member⟩ :=
      selectsReviews.exists_mem expirePositive isEligible
    exact ⟨selected.1, List.mem_map_of_mem member⟩
  · exact fun id isDue => selectsAssets.exists_mem sweepPositive isDue

namespace Passed

variable {expiredAt sweptAt : Timestamp} {reviews assets : List Uuid}

/-- A submission is expired or left alone. -/
theorem submission
    (passed : Passed since before after expiredAt sweptAt reviews assets)
    (id : Uuid) :
    after (.submission id) = before (.submission id) ∨
      id ∈ reviews ∧ ∃ row, before (.submission id) = some row ∧
        row.state = .reviewRequired ∧
        after (.submission id) = some
          (row.transitioned expiredAt .expired none none none none) := by
  rw [passed.swept.submissions]
  by_cases member : id ∈ reviews
  · obtain ⟨_, row, present, _, inReview, _⟩ := passed.reviewed id member
    exact Or.inr ⟨member, row, present, inReview,
      by simp [expireAll, member, present]⟩
  · exact Or.inl (by simp [expireAll, member])

/-- An asset is marked or left alone. -/
theorem asset
    (passed : Passed since before after expiredAt sweptAt reviews assets)
    (id : Uuid) :
    after (.asset id) = if id ∈ assets then
        (before (.asset id)).map (markDeleted sweptAt)
      else before (.asset id) :=
  passed.swept.assets id

/-- Passes create no rows. -/
theorem orderly
    (passed : Passed since before after expiredAt sweptAt reviews assets)
    (orderly : Orderly before) : Orderly after where
  legal id row present := by
    rcases passed.submission id with same | ⟨_, old, found, inReview, expired⟩
    · exact orderly.legal id row (same ▸ present)
    · rw [expired] at present
      cases present
      exact legal_expired (orderly.legal id old found) inReview
  submissions := by
    refine orderly.submissions.subset fun id present => ?_
    rcases passed.submission id with same | ⟨_, old, found, _⟩
    · rwa [Set.mem_ofPred_eq, same] at present
    · simp [found]
  assets := by
    refine orderly.assets.subset fun id present => ?_
    rw [Set.mem_ofPred_eq, passed.asset] at present
    split at present
    · simpa using present
    · exact present

end Passed

/-- A submission under review. -/
def InReview (store : BotStore) (id : Uuid) : Prop :=
  ∃ row, store (.submission id) = some row ∧ row.state = .reviewRequired

/-- A submission whose original is kept. -/
def KeepsOriginal (store : BotStore) (id : Uuid) : Prop :=
  ∃ asset, store (.asset id) = some asset ∧ asset.deletionState = .active

/-- A submission whose original has been deleted. -/
def OriginalDeleted (store : BotStore) (id : Uuid) : Prop :=
  ∃ asset, store (.asset id) = some asset ∧ asset.deletionState = .deleted

/-- The number of rows that passes may still change. -/
noncomputable def remaining (store : BotStore) : Nat :=
  {id | InReview store id}.ncard + {id | KeepsOriginal store id}.ncard

theorem Orderly.finite_inReview (orderly : Orderly store) :
    {id | InReview store id}.Finite := by
  refine orderly.submissions.subset ?_
  rintro id ⟨row, present, _⟩
  simp [present]

theorem Orderly.finite_keepsOriginal (orderly : Orderly store) :
    {id | KeepsOriginal store id}.Finite := by
  refine orderly.assets.subset ?_
  rintro id ⟨asset, present, _⟩
  simp [present]

namespace Passed

variable {expiredAt sweptAt : Timestamp} {reviews assets : List Uuid}

theorem inReview_subset
    (passed : Passed since before after expiredAt sweptAt reviews assets) :
    {id | InReview after id} ⊆ {id | InReview before id} := by
  rintro id ⟨row, present, inReview⟩
  rcases passed.submission id with same | ⟨_, old, found, _, expired⟩
  · exact ⟨row, same ▸ present, inReview⟩
  · rw [expired] at present
    cases present
    contradiction

theorem keepsOriginal_subset
    (passed : Passed since before after expiredAt sweptAt reviews assets) :
    {id | KeepsOriginal after id} ⊆ {id | KeepsOriginal before id} := by
  rintro id ⟨asset, present, active⟩
  rw [passed.asset] at present
  split at present
  · obtain ⟨old, _, rfl⟩ := Option.map_eq_some_iff.mp present
    contradiction
  · exact ⟨asset, present, active⟩

/-- An expired review is under review no more. -/
theorem inReview_ssubset
    (passed : Passed since before after expiredAt sweptAt reviews assets)
    (member : id ∈ reviews) :
    {id | InReview after id} ⊂ {id | InReview before id} := by
  refine (Set.ssubset_iff_of_subset passed.inReview_subset).mpr ⟨id, ?_, ?_⟩
  · obtain ⟨_, row, present, _, inReview, _⟩ := passed.reviewed id member
    exact ⟨row, present, inReview⟩
  · rintro ⟨row, present, inReview⟩
    obtain ⟨_, old, found, _⟩ := passed.reviewed id member
    rw [passed.swept.submissions] at present
    simp only [expireAll, member, if_true, found, Option.map_some,
      Option.some.injEq] at present
    rw [← present] at inReview
    contradiction

/-- A swept asset is active no more. -/
theorem keepsOriginal_ssubset
    (passed : Passed since before after expiredAt sweptAt reviews assets)
    (member : id ∈ assets) :
    {id | KeepsOriginal after id} ⊂ {id | KeepsOriginal before id} := by
  refine (Set.ssubset_iff_of_subset passed.keepsOriginal_subset).mpr
    ⟨id, ?_, ?_⟩
  · obtain ⟨_, asset, present, active, _⟩ := passed.due id member
    exact ⟨asset, present, active⟩
  · rintro ⟨asset, present, active⟩
    rw [passed.asset, if_pos member] at present
    obtain ⟨old, _, rfl⟩ := Option.map_eq_some_iff.mp present
    contradiction

/-- Every pass that changes a row leaves fewer of them. -/
theorem remaining_lt
    (passed : Passed since before after expiredAt sweptAt reviews assets)
    (orderly : Orderly before)
    (changes : (∃ id, id ∈ reviews) ∨ ∃ id, id ∈ assets) :
    remaining after < remaining before := by
  have reviewsLe := Set.ncard_le_ncard passed.inReview_subset
    orderly.finite_inReview
  have assetsLe := Set.ncard_le_ncard passed.keepsOriginal_subset
    orderly.finite_keepsOriginal
  unfold remaining
  rcases changes with ⟨id, member⟩ | ⟨id, member⟩
  · have fewer := Set.ncard_lt_ncard (passed.inReview_ssubset member)
      orderly.finite_inReview
    omega
  · have fewer := Set.ncard_lt_ncard (passed.keepsOriginal_ssubset member)
      orderly.finite_keepsOriginal
    omega

end Passed

/-- A due asset whose submission has finished, or has a review that has
expired. -/
structure Promised (since : Timestamp) (store : BotStore) (id : Uuid) :
    Prop where
  submission : ∃ row, store (.submission id) = some row ∧
    (isSwept row.state = true ∨ row.state = .reviewRequired ∧
      ∃ expiry, row.reviewExpiresAt = some expiry ∧ expiry ≤ since)
  asset : ∃ asset, store (.asset id) = some asset ∧
    asset.deletionState = .active ∧ asset.retentionDeadline ≤ since

/-- A pass keeps the promise or gets closer to it. -/
theorem Promised.pass (promised : Promised since before id)
    (orderly : Orderly before) {expiredAt sweptAt : Timestamp}
    {reviews assets : List Uuid}
    (passed : Passed since before after expiredAt sweptAt reviews assets) :
    OriginalDeleted after id ∨
      Promised since after id ∧ remaining after < remaining before := by
  obtain ⟨⟨row, present, rests⟩, asset, presentAsset, active, due⟩ := promised
  have sweptAsset := passed.asset id
  by_cases member : id ∈ assets
  · refine Or.inl ⟨markDeleted sweptAt asset, ?_, rfl⟩
    rw [sweptAsset, if_pos member, presentAsset]
    rfl
  rw [if_neg member, presentAsset] at sweptAsset
  refine Or.inr ⟨⟨?_, asset, sweptAsset, active, due⟩, ?_⟩
  · rcases passed.submission id with same | ⟨_, old, found, _, expired⟩
    · exact ⟨row, same.trans present, rests⟩
    · exact ⟨_, expired, Or.inl rfl⟩
  · refine passed.remaining_lt orderly ?_
    rcases rests with finished | ⟨inReview, expiry, expires, expired⟩
    · refine Or.inr (passed.sweepsAny id ⟨⟨row, ?_, finished⟩, asset,
        presentAsset, active, Int.le_trans due passed.sweeps⟩)
      have unreviewed : id ∉ reviews := by
        intro reviewed
        obtain ⟨_, old, found, _, oldReview, _⟩ := passed.reviewed id reviewed
        rw [present] at found
        cases found
        rw [oldReview] at finished
        contradiction
      simpa [expireAll, unreviewed] using present
    · exact Or.inl (passed.reviewsAny (id, row.accountId) ⟨row, present, rfl,
        inReview, expiry, expires, Int.le_trans expired passed.expires⟩)

/-- A deleted original stays deleted. -/
theorem OriginalDeleted.pass (deleted : OriginalDeleted before id)
    {expiredAt sweptAt : Timestamp} {reviews assets : List Uuid}
    (passed : Passed since before after expiredAt sweptAt reviews assets) :
    OriginalDeleted after id := by
  obtain ⟨asset, present, isDeleted⟩ := deleted
  by_cases member : id ∈ assets
  · obtain ⟨_, other, found, active, _⟩ := passed.due id member
    rw [show other = asset from Option.some.inj (found.symm.trans present),
      isDeleted] at active
    contradiction
  · refine ⟨asset, ?_, isDeleted⟩
    rw [passed.asset, if_neg member, present]

theorem MaintenancePasses.orderly {count : Nat}
    (passes : MaintenancePasses since before count after)
    (orderly : Orderly before) : Orderly after := by
  induction passes with
  | none => exact orderly
  | more passes pass ih =>
      obtain ⟨_, _, _, _, passed⟩ := ih.passed pass
      exact passed.orderly ih

/-- Every further pass brings the deletion closer. -/
theorem Promised.passes {count : Nat} (promised : Promised since before id)
    (orderly : Orderly before)
    (passes : MaintenancePasses since before count after) :
    OriginalDeleted after id ∨
      Promised since after id ∧
        remaining after + count ≤ remaining before := by
  induction passes with
  | none => exact Or.inr ⟨promised, Nat.le_refl _⟩
  | @more count middle after passes pass ih =>
      have orderlyMiddle := passes.orderly orderly
      obtain ⟨_, _, _, _, passed⟩ := orderlyMiddle.passed pass
      rcases ih with deleted | ⟨stillPromised, fewer⟩
      · exact Or.inl (deleted.pass passed)
      · rcases stillPromised.pass orderlyMiddle passed with deleted | next
        · exact Or.inl deleted
        · exact Or.inr ⟨next.1, by omega⟩

theorem Orderly.finite_reviews (orderly : Orderly store) (now : Timestamp) :
    {entry | ExpiredReview now store entry}.Finite := by
  refine Set.Finite.of_finite_image (f := Prod.fst)
    (orderly.submissions.subset ?_) ?_
  · rintro id ⟨entry, ⟨row, present, _⟩, rfl⟩
    simp [present]
  · rintro first ⟨row, present, owner, _⟩ second
      ⟨other, otherPresent, otherOwner, _⟩ same
    rw [same, otherPresent] at present
    cases present
    exact Prod.ext same (owner.symm.trans otherOwner)

/-- A pass is possible in every orderly store. -/
theorem Orderly.exists_pass (orderly : Orderly before) (since : Timestamp) :
    ∃ after, MaintenancePass since before after := by
  have reviews : ∃ entries, SelectsBatch (ExpiredReview since before)
      (reviewExpiry before) 1 entries :=
    SelectsBatch.exists_of_finite (orderly.finite_reviews since)
  obtain ⟨entries, selectsReviews⟩ := reviews
  let middle := expireAll since (entries.map Prod.fst) before
  have finite : {id | DueAsset since middle id}.Finite := by
    refine orderly.assets.subset ?_
    rintro id ⟨_, asset, present, _⟩
    have found : before (.asset id) = some asset := present
    simp [found]
  have dueAssets : ∃ assets, SelectsBatch (DueAsset since middle)
      (assetDeadline middle) 1 assets :=
    SelectsBatch.exists_of_finite finite
  obtain ⟨assets, selectsAssets⟩ := dueAssets
  have sweeping : ∃ count after, Executes isObject (retentionSweep since
      (.dependency "object store failed") 1 assets) Overlay.none middle count
      Overlay.none after ∧ Swept since assets middle after :=
    executes_retentionSweep Int.one_pos selectsAssets
  obtain ⟨count, after, sweeps, _⟩ := sweeping
  exact ⟨after, since, since, 1, 1, entries, assets, _, _, count, middle,
    Int.le_refl _, Int.le_refl _, Int.one_pos, Int.one_pos, selectsReviews,
    (executes_expireReviews Int.one_pos selectsReviews
      orderly.legal).runsAlone, selectsAssets, sweeps.runsAlone⟩

theorem Orderly.exists_passes (orderly : Orderly before) (since : Timestamp)
    (count : Nat) : ∃ after, MaintenancePasses since before count after := by
  induction count with
  | zero => exact ⟨before, .none⟩
  | succ count ih =>
      obtain ⟨middle, passes⟩ := ih
      obtain ⟨after, pass⟩ := (passes.orderly orderly).exists_pass since
      exact ⟨after, .more passes pass⟩

/-- A kept original whose submission neither call selects. -/
structure Forgotten (store : BotStore) (id : Uuid) : Prop where
  submission : ∃ row, store (.submission id) = some row ∧
    isSwept row.state = false ∧ row.state ≠ .reviewRequired
  asset : KeepsOriginal store id

theorem Forgotten.pass (forgotten : Forgotten before id)
    {expiredAt sweptAt : Timestamp} {reviews assets : List Uuid}
    (passed : Passed since before after expiredAt sweptAt reviews assets) :
    Forgotten after id := by
  obtain ⟨⟨row, present, notSwept, notReview⟩, asset, presentAsset, active⟩ :=
    forgotten
  have unreviewed : id ∉ reviews := by
    intro reviewed
    obtain ⟨_, old, found, _, inReview, _⟩ := passed.reviewed id reviewed
    rw [present] at found
    cases found
    exact notReview inReview
  have unchanged : expireAll expiredAt reviews before (.submission id) =
      some row := by
    simpa [expireAll, unreviewed] using present
  have unswept : id ∉ assets := by
    intro swept
    obtain ⟨⟨old, found, isSwept⟩, _⟩ := passed.due id swept
    rw [unchanged] at found
    cases found
    rw [notSwept] at isSwept
    contradiction
  refine ⟨⟨row, ?_, notSwept, notReview⟩, asset, ?_, active⟩
  · rw [passed.swept.submissions, unchanged]
  · rw [passed.asset, if_neg unswept, presentAsset]

theorem Forgotten.passes {count : Nat} (forgotten : Forgotten before id)
    (orderly : Orderly before)
    (passes : MaintenancePasses since before count after) :
    Forgotten after id := by
  induction passes with
  | none => exact forgotten
  | more passes pass ih =>
      obtain ⟨_, _, _, _, passed⟩ := (passes.orderly orderly).passed pass
      exact ih.pass passed

/-- No number of passes is enough for a forgotten original. -/
theorem Forgotten.never_deleted (forgotten : Forgotten store id)
    (orderly : Orderly store) (enough : Nat)
    (deletes : ∀ count after, enough ≤ count →
      MaintenancePasses since store count after → OriginalDeleted after id) :
    False := by
  obtain ⟨after, passes⟩ := orderly.exists_passes since enough
  obtain ⟨kept, keeps, active⟩ := (forgotten.passes orderly passes).asset
  obtain ⟨other, found, deleted⟩ :=
    deletes enough after (Nat.le_refl _) passes
  rw [keeps] at found
  cases found
  rw [active] at deleted
  contradiction

end Passes

section Runs

open Workers

variable {initial : BotStore} {pool : WorkerPool} {since : Timestamp}
variable {id : Uuid}

/-- A database in which no image has been received. -/
structure NothingReceived (store : BotStore) : Prop where
  receipts : ReceiptMachine.WithoutReceipts store
  assets : ∀ id, store (.asset id) = none

theorem orderly_of_reaches (fresh : NothingReceived initial)
    (run : SessionReaches serve (Pool.idle (Database.fresh initial)) pool) :
    Orderly pool.world.store := by
  have changed := finitelyChanged_of_reaches run
  have finite {table : Uuid → BotKey} (injective : table.Injective)
      (empty : ∀ id, initial (table id) = none) :
      {id | pool.world.store (table id) ≠ none}.Finite := by
    refine Set.Finite.of_finite_image (changed.subset ?_) injective.injOn
    rintro key ⟨id, present, rfl⟩
    rw [Set.mem_ofPred_eq, empty id]
    exact present
  exact ⟨(receiptInvariant_of_reaches fresh.receipts run).legal,
    finite (fun _ _ => BotKey.submission.inj) fresh.receipts.submissions,
    finite (fun _ _ => BotKey.asset.inj) fresh.assets⟩

/-- A submission that makes no progress by itself. -/
structure AtRest (since : Timestamp) (store : BotStore) (id : Uuid)
    (row : SubmissionRow) : Prop where
  reviewed : row.state = .reviewRequired →
    ∀ expiry ∈ row.reviewExpiresAt, expiry ≤ since
  ingested : ∀ job, store (.job (ingestDedupeKey id)) = some job →
    job.state ≠ .queued ∧ job.state ≠ .leased
  extracted : ∀ job, store (.job (extractDedupeKey id)) = some job →
    job.state ≠ .queued ∧ job.state ≠ .leased

/-- In every reachable state, enough passes delete the original of a due asset
whose submission is at rest exactly if the submission is under review or has
been confirmed, rejected, expired or failed for good. -/
theorem passes_delete_finished_originals (fresh : NothingReceived initial)
    (run : SessionReaches serve (Pool.idle (Database.fresh initial)) pool)
    {row : SubmissionRow} {asset : AssetRow}
    (present : pool.world.store (.submission id) = some row)
    (presentAsset : pool.world.store (.asset id) = some asset)
    (active : asset.deletionState = .active)
    (due : asset.retentionDeadline ≤ since)
    (rests : AtRest since pool.world.store id row) :
    (∃ enough, ∀ count after, enough ≤ count →
      MaintenancePasses since pool.world.store count after →
        OriginalDeleted after id) ↔
    row.state = .reviewRequired ∨ row.state = .confirmed ∨
      row.state = .rejected ∨ row.state = .expired ∨
      row.state = .failedPermanent := by
  have orderly := orderly_of_reaches fresh run
  constructor
  · rintro ⟨enough, deletes⟩
    by_contra elsewhere
    simp only [not_or] at elsewhere
    have forgotten : Forgotten pool.world.store id := by
      refine ⟨⟨row, present, ?_, elsewhere.1⟩, asset, presentAsset, active⟩
      refine Bool.eq_false_iff.mpr fun swept => ?_
      have finished := isSwept_iff.mp swept
      simp [elsewhere] at finished
    exact forgotten.never_deleted orderly enough deletes
  · intro finished
    have promised : Promised since pool.world.store id := by
      refine ⟨⟨row, present, ?_⟩, asset, presentAsset, active, due⟩
      rcases finished with inReview | finished
      · have checks := (SubmissionRow.satisfiesChecks_iff.mp
          (orderly.legal id row present).checks).2.2.2.2.1 inReview
        obtain ⟨expiry, expires⟩ := Option.isSome_iff_exists.mp checks
        exact Or.inr ⟨inReview, expiry, expires,
          rests.reviewed inReview expiry expires⟩
      · refine Or.inl (isSwept_iff.mpr ?_)
        simpa [or_assoc] using finished
    refine ⟨remaining pool.world.store + 1, fun count after more passes => ?_⟩
    rcases promised.passes orderly passes with deleted | ⟨_, fewer⟩
    · exact deleted
    · omega

/-- The operator cancels both jobs of a stored receipt. -/
def cancelledRun : List (Nat × SessionLabel WorkerRequest) :=
  List.flatten [ReceiptMachine.ingestedRun.map receiptLabel,
    [(2, .begin (.cancel 2 "receipt.ingest:submission" ⟨"job"⟩))],
    .replicate 4 (2, .advance),
    [(3, .begin (.cancel 3 "receipt.extract:submission" ⟨"extract"⟩))],
    .replicate 4 (3, .advance)]

theorem nothingReceived_oneAccount :
    NothingReceived ReceiptMachine.oneAccount :=
  ⟨ReceiptMachine.withoutReceipts_oneAccount, fun _ => rfl⟩

/-- The extraction of the receipt is then called while it is disabled. -/
def disabledRun : List (Nat × SessionLabel WorkerRequest) :=
  List.flatten [cancelledRun,
    [(4, .begin (.receipt (.extract ⟨24, false, 10⟩
      ⟨4, 5, ⟨"draft"⟩, "1970-01", fun _ => .error (.validation "unread"),
        .dependency "object store failed"⟩ ⟨"account"⟩ ⟨"submission"⟩)))],
    .replicate 13 (4, .advance)]

/-- A receipt and its jobs in the store of a run. -/
structure Left (store : BotStore) (state : ReceiptState)
    (row : SubmissionRow) (asset : AssetRow) (ingest extract : JobRow) :
    Prop where
  present : store (.submission ⟨"submission"⟩) = some row
  inState : row.state = state
  presentAsset : store (.asset ⟨"submission"⟩) = some asset
  active : asset.deletionState = .active
  due : asset.retentionDeadline ≤ 10 ^ 12
  ingested : store (.job (ingestDedupeKey ⟨"submission"⟩)) = some ingest
  ingestCancelled : ingest.state = .cancelled
  extracted : store (.job (extractDedupeKey ⟨"submission"⟩)) = some extract
  extractCancelled : extract.state = .cancelled

theorem Left.atRest {store : BotStore} {state : ReceiptState}
    {row : SubmissionRow} {asset : AssetRow} {ingest extract : JobRow}
    (left : Left store state row asset ingest extract)
    (notReview : state ≠ .reviewRequired) :
    AtRest (10 ^ 12) store ⟨"submission"⟩ row where
  reviewed inReview := absurd (left.inState.symm.trans inReview) notReview
  ingested job found := by
    cases left.ingested.symm.trans found
    simp [left.ingestCancelled]
  extracted job found := by
    cases left.extracted.symm.trans found
    simp [left.extractCancelled]

theorem passes_delete_finished_originals_disabled :
    ∃ pool, runLabels (poolStep (sessionAct serve))
        (Pool.idle (Database.fresh ReceiptMachine.oneAccount)) disabledRun =
          some pool ∧
      (∃ row, pool.world.store (.submission ⟨"submission"⟩) = some row ∧
        row.state = .failedPermanent) ∧
      ∃ enough, ∀ count after, enough ≤ count →
        MaintenancePasses (10 ^ 12) pool.world.store count after →
          OriginalDeleted after ⟨"submission"⟩ := by
  have executed : ∃ pool, runLabels (poolStep (sessionAct serve))
      (Pool.idle (Database.fresh ReceiptMachine.oneAccount)) disabledRun =
        some pool ∧
      ∃ row asset ingest extract, Left pool.world.store .failedPermanent row
        asset ingest extract :=
    ⟨_, rfl, _, _, _, _, rfl, rfl, rfl, rfl, by decide, rfl, rfl, rfl, rfl⟩
  obtain ⟨pool, ran, row, asset, ingest, extract, left⟩ := executed
  refine ⟨pool, ran, ⟨row, left.present, left.inState⟩, ?_⟩
  refine (passes_delete_finished_originals nothingReceived_oneAccount
    (reaches_of_runLabels (permits_anyStep _ disabledRun) ran) left.present
    left.presentAsset left.active left.due (left.atRest nofun)).mpr ?_
  simp [left.inState]

/-- A stored receipt without a job keeps its original for ever. -/
theorem passes_forget_stored_original :
    ∃ pool, SessionReaches serve
        (Pool.idle (Database.fresh ReceiptMachine.oneAccount)) pool ∧
      ∃ row asset,
        pool.world.store (.submission ⟨"submission"⟩) = some row ∧
        row.state = .stored ∧
        pool.world.store (.asset ⟨"submission"⟩) = some asset ∧
        asset.deletionState = .active ∧
        asset.retentionDeadline ≤ 10 ^ 12 ∧
        AtRest (10 ^ 12) pool.world.store ⟨"submission"⟩ row ∧
        ¬ ∃ enough, ∀ count after, enough ≤ count →
          MaintenancePasses (10 ^ 12) pool.world.store count after →
            OriginalDeleted after ⟨"submission"⟩ := by
  have executed : ∃ pool, runLabels (poolStep (sessionAct serve))
      (Pool.idle (Database.fresh ReceiptMachine.oneAccount)) cancelledRun =
        some pool ∧
      ∃ row asset ingest extract, Left pool.world.store .stored row asset
        ingest extract :=
    ⟨_, rfl, _, _, _, _, rfl, rfl, rfl, rfl, by decide, rfl, rfl, rfl, rfl⟩
  obtain ⟨pool, ran, row, asset, ingest, extract, left⟩ := executed
  have run : SessionReaches serve
      (Pool.idle (Database.fresh ReceiptMachine.oneAccount)) pool :=
    reaches_of_runLabels (permits_anyStep _ cancelledRun) ran
  refine ⟨pool, run, row, asset, left.present, left.inState,
    left.presentAsset, left.active, left.due, left.atRest nofun, ?_⟩
  rintro ⟨enough, deletes⟩
  have forgotten : Forgotten pool.world.store ⟨"submission"⟩ :=
    ⟨⟨row, left.present, by rw [left.inState]; rfl, by simp [left.inState]⟩,
      asset, left.presentAsset, left.active⟩
  exact forgotten.never_deleted
    (orderly_of_reaches nothingReceived_oneAccount run) enough deletes

end Runs

end Retention

end ZaloBot
