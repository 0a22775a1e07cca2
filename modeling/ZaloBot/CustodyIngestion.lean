import ZaloBot.CustodyOperations
import ZaloBot.WorkerExecutions

/-!
# Ingestion keeps custody

An ingestion that meets an active copy of its image looks the copy up again
after its rollback.  If the original has been deleted meanwhile, the lookup is
in vain and the ingestion ends as if the submission had been stored.  An
ingestion that does not look up in vain ends with a submission that has been
stored, absorbed or finished.
-/

namespace ZaloBot

open Sessions

section Lookups

variable {Event NewEvent Error Value Other : Type}

/-- A session that begins with the lock of a submission. -/
def locksSubmission : Session BotRow Event Error Value → Bool
  | .lock _ (.submission _) _ _ _ => true
  | _ => false

/-- A database in which every image has an active copy. -/
def withCopies (store : BotStore) (original : Uuid) : BotStore
  | .activeImage accountId contentSha256 =>
      (store (.activeImage accountId contentSha256)).or (some original)
  | key => store key

/-- The next statement is the lookup of an active copy that decides whether a
submission is absorbed, and it finds none: with a copy, the session would go on
to lock a submission, and without one it does not. -/
def LooksUpInVain (session : Session BotRow Event Error Value)
    (store : BotStore) : Prop :=
  ∃ next failed original, session = .read next failed ∧
    Workers.startsOrdinary (next store) = true ∧
    locksSubmission (next (withCopies store original)) = true

theorem locksSubmission_bind {session : Session BotRow Event Error Value}
    {rest : Value → Session BotRow Event Error Other}
    (locks : locksSubmission session = true) :
    locksSubmission (session.bind rest) = true := by
  unfold locksSubmission at locks
  split at locks
  · rfl
  · contradiction

theorem startsOrdinary_bind {session : Session BotRow Event Error Value}
    {rest : Value → Session BotRow Event Error Other}
    (ordinary : ∀ value, Workers.startsOrdinary (rest value) = true)
    (starts : Workers.startsOrdinary session = true) :
    Workers.startsOrdinary (session.bind rest) = true := by
  cases session with
  | done value => exact ordinary value
  | lock mode key wanted next failed => cases key <;> first | rfl | contradiction
  | emit event key row next failed => contradiction
  | _ => rfl

theorem LooksUpInVain.bind {session : Session BotRow Event Error Value}
    {rest : Value → Session BotRow Event Error Other} {store : BotStore}
    (ordinary : ∀ value, Workers.startsOrdinary (rest value) = true)
    (looks : LooksUpInVain session store) :
    LooksUpInVain (session.bind rest) store := by
  obtain ⟨next, failed, original, rfl, starts, locks⟩ := looks
  exact ⟨_, _, original, rfl, startsOrdinary_bind ordinary starts,
    locksSubmission_bind locks⟩

theorem locksSubmission_attempt {session : Session BotRow Event Error Value}
    (locks : locksSubmission session = true) :
    locksSubmission session.attempt = true := by
  unfold locksSubmission at locks
  split at locks
  · rfl
  · contradiction

theorem startsOrdinary_attempt {session : Session BotRow Event Error Value}
    (starts : Workers.startsOrdinary session = true) :
    Workers.startsOrdinary session.attempt = true := by
  cases session with
  | lock mode key wanted next failed => cases key <;> first | rfl | contradiction
  | emit event key row next failed => contradiction
  | _ => rfl

theorem LooksUpInVain.attempt {session : Session BotRow Event Error Value}
    {store : BotStore} (looks : LooksUpInVain session store) :
    LooksUpInVain session.attempt store := by
  obtain ⟨next, failed, original, rfl, starts, locks⟩ := looks
  exact ⟨_, _, original, rfl, startsOrdinary_attempt starts,
    locksSubmission_attempt locks⟩

theorem LooksUpInVain.mapEvent {session : Session BotRow Event Error Value}
    {rename : Event → NewEvent} {store : BotStore}
    (looks : LooksUpInVain session store) :
    LooksUpInVain (session.mapEvent rename) store := by
  obtain ⟨next, failed, original, rfl, starts, locks⟩ := looks
  refine ⟨_, _, original, rfl, ?_, ?_⟩
  · cases root : next store with
    | lock mode key wanted next failed =>
        rw [root] at starts
        cases key <;> first | rfl | contradiction
    | emit event key row next failed =>
        rw [root] at starts
        contradiction
    | _ => rfl
  · unfold locksSubmission at locks
    split at locks
    · rename_i found
      rw [found]
      rfl
    · contradiction

/-- Bind after an attempt: only the answers of successful calls matter. -/
theorem LooksUpInVain.bindAttempt
    {session : Session BotRow Event Error Value}
    {rest : Except Error Value → Session BotRow Event Error Other}
    {store : BotStore}
    (ordinary : ∀ value, Workers.startsOrdinary (rest (.ok value)) = true)
    (looks : LooksUpInVain session.attempt store) :
    LooksUpInVain (session.attempt.bind rest) store := by
  obtain ⟨next, failed, original, isRead, starts, locks⟩ := looks
  cases session with
  | read asks missing =>
      obtain ⟨rfl, rfl⟩ : (fun view => (asks view).attempt) = next ∧
          missing.attempt = failed := by
        simpa [Session.attempt] using isRead
      refine ⟨_, _, original, rfl, ?_, locksSubmission_bind locks⟩
      cases root : asks store with
      | done value =>
          simp only [root]
          exact ordinary value
      | lock mode key wanted next failed =>
          simp only [root] at starts ⊢
          cases key <;> first | rfl | contradiction
      | emit event key row next failed =>
          simp only [root] at starts
          contradiction
      | _ =>
          simp only [root]
          rfl
  | _ => simp [Session.attempt] at isRead

/-- No lookup is in vain. -/
def lookupPolicy (Event Error : Type) : ReadPolicy BotRow Event Error where
  observes session store := ¬ LooksUpInVain session store
  ordinary session := Workers.startsOrdinary session = true
  bind ordinary found looks := found (looks.bind ordinary)
  bindAttempt ordinary found looks := found (looks.bindAttempt ordinary)

end Lookups

/-- An asset of an account with a certain image. -/
def HasImage (store : BotStore) (id accountId : Uuid)
    (contentSha256 : String) : Prop :=
  ∃ asset, store (.asset id) = some asset ∧ asset.accountId = accountId ∧
    asset.image.contentSha256 = contentSha256

theorem HasImage.hasAsset {store : BotStore} {id accountId : Uuid}
    {contentSha256 : String}
    (has : HasImage store id accountId contentSha256) :
    HasAsset store id accountId := by
  obtain ⟨asset, present, owner, _⟩ := has
  exact ⟨asset, present, owner⟩

theorem HasImage.advances {before after : BotStore} {id accountId : Uuid}
    {contentSha256 : String}
    (has : HasImage before id accountId contentSha256)
    (moves : CustodyAdvances before after) :
    HasImage after id accountId contentSha256 := by
  obtain ⟨asset, present, owner, image⟩ := has
  obtain ⟨next, found, sameOwner, sameImage⟩ :=
    moves.assets id asset present
  exact ⟨next, found, sameOwner.trans owner, by rw [sameImage, image]⟩

theorem Custody.hasImage {noCancel : Prop} {store : BotStore}
    {id accountId : Uuid} {contentSha256 : String}
    (holds : Custody noCancel store)
    (indexed : store (.activeImage accountId contentSha256) = some id) :
    HasImage store id accountId contentSha256 := by
  obtain ⟨asset, present, owner, image, _⟩ :=
    (holds.images accountId contentSha256 id).mp indexed
  exact ⟨asset, present, owner, image⟩

/-- What is known when an ingestion has ended. -/
def IngestKnown (hashes : String → Prop) (accountId submissionId : Uuid)
    (outcome : IngestOutcome) (store : BotStore) : Prop :=
  match outcome with
  | .stored id _ => id = submissionId ∧ WasStored store submissionId
  | .alreadyStored id => id = submissionId ∧ WasStored store submissionId
  | .duplicateAbsorbed id original => id = submissionId ∧
      Receipts.Absorbed store submissionId accountId original ∧
      ∃ contentSha256, hashes contentSha256 ∧
        HasImage store original accountId contentSha256
  | .alreadyTerminal _ => Owns submissionId accountId store →
      HasBeen ReceiptState.isPastIngest store submissionId

namespace Receipts

open Discipline

variable {permitted : ReceiptEvent → Prop} {noCancel : Prop}
variable {own : Overlay BotRow} {store floor : BotStore} {now : Timestamp}
variable {submissionId accountId : Uuid}

/-- Whatever the ingestion ends with stays known. -/
theorem ingestKnown_advances {hashes : String → Prop} {later : BotStore}
    {outcome : IngestOutcome}
    (known : IngestKnown hashes accountId submissionId outcome store)
    (owns : Owns submissionId accountId store)
    (moves : CustodyAdvances store later) :
    IngestKnown hashes accountId submissionId outcome later := by
  cases outcome with
  | stored id contentSha256 => exact ⟨known.1, known.2.advances moves⟩
  | alreadyStored id => exact ⟨known.1, known.2.advances moves⟩
  | duplicateAbsorbed id original =>
      obtain ⟨isId, absorbed, contentSha256, hash, image⟩ := known
      exact ⟨isId, absorbed.advances moves, contentSha256, hash,
        image.advances moves⟩
  | alreadyTerminal state => exact fun _ => (known owns).advances moves

theorem wp_insertAssetCustody {assetId : Uuid} {objectKey : String}
    {image : ValidatedImage}
    {post : AssetInsert → Overlay BotRow → BotStore → Prop}
    (conflict : ∀ last, post .uniqueConflict last store)
    (inserted : ∀ asset : AssetRow, asset.accountId = accountId →
      asset.image = image → asset.deletionState = .active →
      own.view store (.activeImage accountId image.contentSha256) = none →
      post .inserted ((own.set (.asset submissionId) (some asset)).set
        (.activeImage accountId image.contentSha256) (some submissionId))
        store) :
    (custodyRules ReceiptEvent permitted noCancel).wp (insertAsset now assetId
      submissionId accountId objectKey image) own store post := by
  unfold insertAsset
  rw [wp_monad_bind]
  refine wp_query trivial fun older _ => ?_
  cases own.view older (.account accountId) with
  | none => trivial
  | some account =>
      dsimp only
      rw [wp_monad_bind]
      refine wp_insertRow trivial (fun _ _ _ _ => conflict own) fun _ => ?_
      rw [if_pos rfl, wp_monad_bind]
      refine wp_insertRow trivial (fun _ _ _ _ => conflict _) fun free => ?_
      rw [Overlay.set_view_other (by simp)] at free
      exact inserted _ rfl rfl rfl free

/-- The asset, the index entry, the submission and the job of an image that is
stored. -/
theorem custody_storeIngest (extractJobId : Uuid) {assetId : Uuid}
    {objectKey : String} {image : ValidatedImage} {row : SubmissionRow}
    {post : AssetInsert → Overlay BotRow → BotStore → Prop}
    (holds : Custody noCancel store)
    (present : store (.submission submissionId) = some row)
    (owner : row.accountId = accountId)
    (conflict : ∀ last, post .uniqueConflict last store)
    (stored : ∀ last, (custodyRules ReceiptEvent permitted noCancel).wp
      (enqueueReceiptJob now extractJobId jobTypeExtract submissionId
        accountId) last store (fun _ last store =>
          CustodyProgress noCancel store (last.view store) ∧
          Owns submissionId accountId (last.view store) ∧
          WasStored (last.view store) submissionId) →
      post .inserted last store) :
    (custodyRules ReceiptEvent permitted noCancel).wp (do
      transitionState now submissionId accountId row.state .stored none none
        none none
      insertAsset now assetId submissionId accountId objectKey image)
      Overlay.none store post := by
  rw [wp_monad_bind]
  refine wp_transitionChecked fun found isFound _ _ legal checks => ?_
  rw [Overlay.none_view, present] at isFound
  cases isFound
  have isQueued : row.state = .queued := by
    revert legal
    cases row.state <;> simp [canTransition]
  have history :=
    ((holds.submissions submissionId row present).queued isQueued).1
  refine wp_insertAssetCustody conflict
    fun asset assetOwner isImage active free => ?_
  rw [Overlay.set_view_other (by simp), Overlay.none_view] at free
  refine stored _ (wp_enqueueCustody (if_neg (by decide)) ?_ ?_)
  · intro older existing olderHolds moves found
    rw [Overlay.set_view_other (by simp), Overlay.set_view_other (by simp),
      Overlay.set_view_other (by simp), Overlay.none_view] at found
    obtain ⟨later, isLater, member⟩ := WasStored.advances
      (olderHolds.extractJobs submissionId existing found).2 moves
    rw [present] at isLater
    cases isLater
    simp [history] at member
  · intro last job presentJob jobType isQueuedJob same
    subst owner isImage
    have unchanged (key : BotKey)
        (untouched : ¬ storesRow submissionId row.accountId
          asset.image.contentSha256 key) :
        last.view store key = store key := by
      simp only [storesRow, not_or] at untouched
      rw [Overlay.view, same key untouched.2.2.2, ← Overlay.view,
        Overlay.set_view_other untouched.2.2.1,
        Overlay.set_view_other untouched.2.1,
        Overlay.set_view_other untouched.1, Overlay.none_view]
    have submission : last.view store (.submission submissionId) =
        some (row.transitioned now .stored none none none none) := by
      rw [Overlay.view, same _ (by simp), ← Overlay.view,
        Overlay.set_view_other (by simp), Overlay.set_view_other (by simp),
        Overlay.set_view_self]
    have presentAsset : last.view store (.asset submissionId) =
        some asset := by
      rw [Overlay.view, same _ (by simp), ← Overlay.view,
        Overlay.set_view_other (by simp), Overlay.set_view_self]
    have indexed : last.view store (.activeImage row.accountId
        asset.image.contentSha256) = some submissionId := by
      rw [Overlay.view, same _ (by simp), ← Overlay.view,
        Overlay.set_view_self]
    exact ⟨holds.stored present isQueued free checks assetOwner active jobType
      ⟨by simp [isQueuedJob], by simp [isQueuedJob]⟩ submission presentAsset
      indexed presentJob fun key _ => unchanged key,
      ⟨_, submission, rfl⟩, _, submission, List.mem_cons_self⟩

/-- The lookup after a conflict, unless it is in vain. -/
theorem custody_resolveConflict {validated : ValidatedImage}
    {observes : Operation IngestOutcome → BotStore → Prop}
    (found : ∀ session store, observes session store →
      ¬ LooksUpInVain session store)
    (holds : Custody noCancel store)
    (owns : Owns submissionId accountId store) :
    (custodyRules ReceiptEvent permitted noCancel).wpSince observes floor (do
      let original ← findActiveDuplicate accountId validated.contentSha256
      match original.filter (· ≠ submissionId) with
      | some original => do
          absorbDuplicate now submissionId accountId original
          pure (.duplicateAbsorbed submissionId original)
      | none => pure (.alreadyStored submissionId)) Overlay.none store
      fun outcome _ last later => last = Overlay.none ∧
        Custody noCancel later ∧ Owns submissionId accountId later ∧
        IngestKnown (· = validated.contentSha256) accountId submissionId
          outcome later := by
  refine ⟨fun older _ earlier sees => ?_, trivial⟩
  have olderHolds : Custody noCancel older := earlier.invariant
  change (custodyRules ReceiptEvent permitted noCancel).wpSince observes older
    (match (older (.activeImage accountId validated.contentSha256)).filter
        (· ≠ submissionId) with
      | some original => do
          absorbDuplicate now submissionId accountId original
          pure (.duplicateAbsorbed submissionId original)
      | none => pure (.alreadyStored submissionId)) Overlay.none store _
  cases indexed : older (.activeImage accountId validated.contentSha256) with
  | none =>
      refine absurd ?_ (found _ _ sees)
      refine ⟨_, _, ⟨submissionId.text ++ "0"⟩, rfl, ?_, ?_⟩
      · simp only [indexed]
        rfl
      · have different : (⟨submissionId.text ++ "0"⟩ : Uuid) ≠
            submissionId := by
          intro same
          have lengths := congrArg (fun id => id.text.length) same
          simp at lengths
        simp only [withCopies, indexed, Option.none_or, Session.bind,
          Option.filter, different, ne_eq, not_false_eq_true, decide_true,
          if_true]
        rfl
  | some original =>
      by_cases isOwn : original = submissionId
      · subst isOwn
        simp only [Option.filter, ne_eq, not_true_eq_false, decide_false,
          Bool.false_eq_true, if_false]
        obtain ⟨asset, present, _⟩ := olderHolds.hasImage indexed
        exact ⟨rfl, holds, owns, rfl, WasStored.advances
          (olderHolds.assets original asset present) earlier.advances⟩
      · simp only [Option.filter, ne_eq, isOwn, not_false_eq_true,
          decide_true, if_true]
        have image := (olderHolds.hasImage indexed).advances earlier.advances
        refine wpSince_of_wp ?_
        rw [wp_monad_bind]
        refine wp_mono ?_ (custody_absorbDuplicate holds image.hasAsset)
        rintro _ last later ⟨rfl, holdsLater, moves, absorbed⟩
        exact ⟨rfl, holdsLater, owns.advances moves, rfl, absorbed, _, rfl,
          image.advances moves⟩

theorem custody_persistStoredIngest {environment : IngestEnvironment}
    {objectKey : String} {validated : ValidatedImage} {extractJobId : Uuid}
    {observes : Operation IngestOutcome → BotStore → Prop}
    (found : ∀ session store, observes session store →
      ¬ LooksUpInVain session store)
    (holds : Custody noCancel store) :
    (custodyRules ReceiptEvent permitted noCancel).wpSince observes floor
      (persistStoredIngest environment accountId submissionId objectKey
        validated extractJobId) Overlay.none store
      fun outcome _ last later => last = Overlay.none ∧
        Custody noCancel later ∧ Owns submissionId accountId later ∧
        IngestKnown (· = validated.contentSha256) accountId submissionId
          outcome later := by
  unfold persistStoredIngest
  refine wpSince_bind_of_wp (wp_loadSubmissionForUpdate trivial trivial
    fun row present owner floor => ?_)
  rw [Overlay.none_view] at present
  have owns : Owns submissionId accountId store := ⟨row, present, owner⟩
  split
  · rename_i underway
    refine wpSince_of_wp ?_
    rw [wp_monad_bind]
    refine wp_commitTended (.refl holds) fun later holdsLater moves => ?_
    refine ⟨rfl, holdsLater, owns.advances moves, rfl,
      (holds.wasStored present ?_).advances moves⟩
    rcases underway with isState | isState | isState | isState <;>
      rw [isState] <;> rfl
  split
  · rename_i terminal
    intro later isLater
    refine ⟨rfl, isLater.invariant, owns.advances isLater.advances, fun _ =>
      (holds.hasBeen present ?_).advances isLater.advances⟩
    revert terminal
    cases row.state <;>
      simp [ReceiptState.isTerminal, ReceiptState.isPastIngest]
  split
  · exact fun _ _ => trivial
  refine wpSince_bind_of_wp (wp_mono
    (fun _ _ _ continues floor => wpSince_bind_of_wp continues)
    (wp_monad_bind.mp (custody_storeIngest extractJobId holds present owner ?_ ?_)))
  · intro last floor later isLater
    exact custody_resolveConflict found isLater.invariant
      (owns.advances isLater.advances)
  · intro last enqueues floor
    refine wpSince_of_wp ?_
    rw [wp_monad_bind]
    refine wp_mono ?_ enqueues
    rintro _ last store ⟨progress, owns, stored⟩
    rw [wp_monad_bind]
    refine wp_commitCustody progress fun later holdsLater moves => ?_
    exact ⟨rfl, holdsLater, owns.advances moves, rfl, stored.advances moves⟩

theorem wp_loadSubmissionCustody
    {post : SubmissionRow → Overlay BotRow → BotStore → Prop}
    (found : ∀ older row, Custody noCancel older →
      CustodyAdvances older store →
      older (.submission submissionId) = some row →
      row.accountId = accountId → post row Overlay.none store) :
    (custodyRules ReceiptEvent permitted noCancel).wp
      (loadSubmission submissionId accountId) Overlay.none store post := by
  unfold loadSubmission
  rw [wp_monad_bind]
  refine wp_query trivial fun older earlier => ?_
  rw [Overlay.none_view]
  split
  · trivial
  · rename_i row filtered
    obtain ⟨present, owner⟩ := Option.filter_eq_some_iff.mp filtered
    exact found older row earlier.invariant earlier.advances present
      (by simpa using owner)

theorem custody_compensateOrphanObject {environment : IngestEnvironment}
    {objectKey : String} (holds : Custody noCancel store) :
    (custodyRules ReceiptEvent permitted noCancel).wp (compensateOrphanObject
      environment accountId submissionId objectKey) Overlay.none store
      fun _ last later => last = Overlay.none ∧
        CustodyAdvances store later := by
  unfold compensateOrphanObject
  rw [wp_monad_bind]
  refine wp_attemptReads holds (within_query _ _)
    fun asset later holds moves => ?_
  split
  · exact ⟨rfl, moves⟩
  · rw [wp_monad_bind]
    refine wp_emitCustody not_false ⟨rfl, moves⟩ ?_
    exact fun final isLater => ⟨rfl, moves.trans isLater.advances⟩

/-- The hash that the image check computes. -/
def HashOf (environment : IngestEnvironment) (bytes : List UInt8)
    (mimeType contentSha256 : String) : Prop :=
  ∃ validated, environment.validateImage bytes mimeType = .ok validated ∧
    contentSha256 = validated.contentSha256

theorem ingestKnown_mono {hashes widens : String → Prop}
    {outcome : IngestOutcome}
    (implies : ∀ contentSha256, hashes contentSha256 → widens contentSha256)
    (known : IngestKnown hashes accountId submissionId outcome store) :
    IngestKnown widens accountId submissionId outcome store := by
  cases outcome with
  | duplicateAbsorbed id original =>
      obtain ⟨isId, absorbed, contentSha256, hash, image⟩ := known
      exact ⟨isId, absorbed, contentSha256, implies _ hash, image⟩
  | stored id contentSha256 => exact known
  | alreadyStored id => exact known
  | alreadyTerminal state => exact known

/-- What follows the attempt to store an image. -/
theorem custody_afterPersist {environment : IngestEnvironment}
    {objectKey : String} {hashes : String → Prop}
    {persist : Except ReceiptFailure IngestOutcome}
    (holds : Custody noCancel store)
    (known : ∀ outcome, persist = .ok outcome →
      Owns submissionId accountId store ∧
      IngestKnown hashes accountId submissionId outcome store) :
    (custodyRules ReceiptEvent permitted noCancel).wp (match persist with
      | .ok (.stored submissionId contentSha256) =>
          pure (.stored submissionId contentSha256)
      | .ok (.alreadyStored submissionId) =>
          pure (.alreadyStored submissionId)
      | .ok outcome => do
          compensateOrphanObject environment accountId submissionId objectKey
          pure outcome
      | .error error => do
          compensateOrphanObject environment accountId submissionId objectKey
          .fail error) Overlay.none store
      fun outcome last later => last = Overlay.none ∧
        IngestKnown hashes accountId submissionId outcome later := by
  split
  · exact ⟨rfl, (known _ rfl).2⟩
  · exact ⟨rfl, (known _ rfl).2⟩
  · obtain ⟨owns, facts⟩ := known _ rfl
    rw [wp_monad_bind]
    refine wp_mono ?_ (custody_compensateOrphanObject holds)
    rintro _ last later ⟨rfl, moves⟩
    exact ⟨rfl, ingestKnown_advances facts owns moves⟩
  · rw [wp_monad_bind]
    exact wp_mono (fun _ _ _ _ => trivial)
      (custody_compensateOrphanObject holds)

/-- Whatever follows the attempt to store an image knows what it has done. -/
theorem custody_attemptPersist {environment : IngestEnvironment}
    {objectKey : String} {validated : ValidatedImage} {extractJobId : Uuid}
    {observes : Operation IngestOutcome → BotStore → Prop}
    {rest : Except ReceiptFailure IngestOutcome → Operation IngestOutcome}
    {post : IngestOutcome → Overlay BotRow → BotStore → Prop}
    (found : ∀ session store, observes session store →
      ¬ LooksUpInVain session store)
    (ordinary : ∀ outcome, Workers.startsOrdinary (rest (.ok outcome)) = true)
    (holds : Custody noCancel store)
    (continues : ∀ persist later, Custody noCancel later →
      (∀ outcome, persist = .ok outcome →
        Owns submissionId accountId later ∧
        IngestKnown (· = validated.contentSha256) accountId submissionId
          outcome later) →
      (custodyRules ReceiptEvent permitted noCancel).wp (rest persist)
        Overlay.none later post) :
    (custodyRules ReceiptEvent permitted noCancel).wpSince observes floor
      ((persistStoredIngest environment accountId submissionId objectKey
        validated extractJobId).attempt >>= rest) Overlay.none store
      fun outcome _ => post outcome := by
  have stores : (custodyRules ReceiptEvent permitted noCancel).wpSince
      (fun session => observes (session.attempt.bind rest)) floor
      (persistStoredIngest environment accountId submissionId objectKey
        validated extractJobId) Overlay.none store _ :=
    custody_persistStoredIngest (fun _ store sees looks =>
      found _ store sees (looks.attempt.bindAttempt ordinary)) holds
  rw [wpSince_bind]
  have attempts : (custodyRules ReceiptEvent permitted noCancel).wpSince
      (fun session => observes (session.bind rest)) floor
      (persistStoredIngest environment accountId submissionId objectKey
        validated extractJobId).attempt Overlay.none store
      fun persist _ last later => last = Overlay.none ∧
        Custody noCancel later ∧ ∀ outcome, persist = .ok outcome →
          Owns submissionId accountId later ∧
          IngestKnown (· = validated.contentSha256) accountId submissionId
            outcome later := by
    refine wpSince_attempt (fun _ _ later (_ : True) isLater =>
      ⟨rfl, isLater.invariant, nofun⟩) (wpSince_mono (fun _ _ => id) ?_ stores)
    rintro value _ last later ⟨nothing, holdsLater, owns, known⟩
    refine ⟨nothing, holdsLater, ?_⟩
    rintro outcome ⟨⟩
    exact ⟨owns, known⟩
  refine wpSince_mono (fun _ _ => id) ?_ attempts
  rintro persist floor last later ⟨rfl, holdsLater, known⟩
  exact wpSince_of_wp (continues persist later holdsLater known)

/-- The part of `ingest` after the image check. -/
theorem custody_ingestValidated {environment : IngestEnvironment}
    {bytes : List UInt8} {validated : ValidatedImage} {extractJobId : Uuid}
    {observes : Operation IngestOutcome → BotStore → Prop}
    (found : ∀ session store, observes session store →
      ¬ LooksUpInVain session store)
    (holds : Custody noCancel store) :
    (custodyRules ReceiptEvent permitted noCancel).wpSince observes floor (do
      let original ← findActiveDuplicate accountId validated.contentSha256
      match original.filter (· ≠ submissionId) with
      | some original => do
          absorbDuplicate environment.now submissionId accountId original
          pure (.duplicateAbsorbed submissionId original)
      | none => do
          let objectKey := receiptObjectKey accountId submissionId
            validated.contentSha256
          putObject environment.objectStoreError objectKey bytes
          let persist ← (persistStoredIngest environment accountId
            submissionId objectKey validated extractJobId).attempt
          match persist with
          | .ok (.stored submissionId contentSha256) =>
              pure (.stored submissionId contentSha256)
          | .ok (.alreadyStored submissionId) =>
              pure (.alreadyStored submissionId)
          | .ok outcome => do
              compensateOrphanObject environment accountId submissionId
                objectKey
              pure outcome
          | .error error => do
              compensateOrphanObject environment accountId submissionId
                objectKey
              .fail error) Overlay.none store
      fun outcome _ last later => last = Overlay.none ∧
        IngestKnown (· = validated.contentSha256) accountId submissionId
          outcome later := by
  refine wpSince_bind_of_wp (wp_query trivial fun older earlier floor => ?_)
  have olderHolds : Custody noCancel older := earlier.invariant
  split
  · rename_i original filtered
    obtain ⟨indexed, _⟩ := Option.filter_eq_some_iff.mp filtered
    have image := (olderHolds.hasImage indexed).advances earlier.advances
    refine wpSince_of_wp ?_
    rw [wp_monad_bind]
    refine wp_mono ?_ (custody_absorbDuplicate holds image.hasAsset)
    rintro _ last later ⟨rfl, _, moves, absorbed⟩
    exact ⟨rfl, rfl, absorbed, _, rfl, image.advances moves⟩
  · refine wpSince_bind_of_wp (wp_emitCustody not_false (fun floor => ?_)
      trivial)
    exact custody_attemptPersist found
      (fun outcome => by cases outcome <;> rfl) holds
      fun persist later holdsLater known =>
        custody_afterPersist holdsLater known

/-- The states in which an ingestion finds its submission stored. -/
theorem hasBeenStored_of_underway {state : ReceiptState} {present : Prop}
    (underway : state = .stored ∨ state = .extracting ∨
      state = .reviewRequired ∨ state = .confirmed ∨
      (state = .failedTransient ∧ present)) :
    state.hasBeenStored = true := by
  rcases underway with rfl | rfl | rfl | rfl | ⟨rfl, _⟩ <;> rfl

theorem custody_ingest {environment : IngestEnvironment}
    {bytes : List UInt8} {mimeType : String} {extractJobId : Uuid}
    {observes : Operation IngestOutcome → BotStore → Prop}
    (found : ∀ session store, observes session store →
      ¬ LooksUpInVain session store)
    (holds : Custody noCancel store) :
    (custodyRules ReceiptEvent permitted noCancel).wpSince observes floor
      (ingest environment accountId submissionId bytes mimeType extractJobId)
      Overlay.none store fun outcome _ last later => last = Overlay.none ∧
        IngestKnown (HashOf environment bytes mimeType) accountId submissionId
          outcome later := by
  unfold ingest
  refine wpSince_bind_of_wp (wp_query trivial fun older earlier floor => ?_)
  split
  case isFalse =>
    rename_i inactive
    refine ⟨rfl, fun owns => ?_⟩
    obtain ⟨account, isAccount, isActive⟩ := holds.account_active owns
    rw [earlier.advances.accounts] at isAccount
    rw [Overlay.none_view, isAccount] at inactive
    simp [isActive] at inactive
  refine wpSince_bind_of_wp (wp_loadSubmissionCustody
    fun older row olderHolds moves present owner floor => ?_)
  refine wpSince_bind_of_wp (wp_query trivial fun _ _ floor => ?_)
  split
  · rename_i underway
    exact ⟨rfl, rfl, (olderHolds.wasStored present
      (hasBeenStored_of_underway underway)).advances moves⟩
  split
  · rename_i terminal
    refine ⟨rfl, fun _ => (olderHolds.hasBeen present ?_).advances moves⟩
    revert terminal
    cases row.state <;>
      simp [ReceiptState.isTerminal, ReceiptState.isPastIngest]
  split
  · trivial
  split
  · refine wpSince_of_wp ?_
    rw [wp_monad_bind]
    exact wp_mono (fun _ _ _ _ => trivial) (custody_markFailure holds)
  · rename_i validated isValid
    refine wpSince_mono (fun _ _ => id) ?_
      (custody_ingestValidated found holds)
    rintro outcome _ last later ⟨nothing, known⟩
    exact ⟨nothing, ingestKnown_mono (fun _ isHash => ⟨validated, isValid,
      isHash⟩) known⟩

end Receipts

end ZaloBot
