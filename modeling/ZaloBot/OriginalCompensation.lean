import ZaloBot.ReceiptStatementRules
import ZaloBot.SessionFootprints

/-!
# Compensation of ingests

An ingest that fails after it has put its object deletes the object again,
unless it finds an asset row of the submission.  Any number of ingests run
side by side, with failing statements and lost acknowledgements.  The object
of a committed active asset is deleted only if the lookup of a compensation
fails although the asset is there, or if the asset is committed while another
ingest is already about to delete the object.
-/

namespace ZaloBot

open Sessions LabelledRuns TaskPool

/-- The hyphenated text of a UUID has 36 characters. -/
def Uuid.IsHyphenated (id : Uuid) : Prop :=
  id.text.toList.length = 36

/-- Object keys tell accounts and submissions apart. -/
theorem receiptObjectKey_inj {accountId otherAccountId submissionId
    otherSubmissionId : Uuid} {contentSha256 otherSha256 : String}
    (accountLength : accountId.IsHyphenated)
    (otherAccountLength : otherAccountId.IsHyphenated)
    (submissionLength : submissionId.IsHyphenated)
    (otherSubmissionLength : otherSubmissionId.IsHyphenated)
    (same : receiptObjectKey accountId submissionId contentSha256 =
      receiptObjectKey otherAccountId otherSubmissionId otherSha256) :
    accountId = otherAccountId ∧ submissionId = otherSubmissionId := by
  have lists := congrArg String.toList same
  simp only [receiptObjectKey, String.toList_append, List.append_assoc,
    List.append_cancel_left_eq] at lists
  obtain ⟨accounts, rest⟩ :=
    List.append_inj lists (accountLength.trans otherAccountLength.symm)
  rw [List.append_cancel_left_eq] at rest
  obtain ⟨submissions, _⟩ :=
    List.append_inj rest (submissionLength.trans otherSubmissionLength.symm)
  cases accountId
  cases otherAccountId
  cases submissionId
  cases otherSubmissionId
  exact ⟨congrArg Uuid.mk (String.toList_inj.mp accounts),
    congrArg Uuid.mk (String.toList_inj.mp submissions)⟩

/-- One call of `ingest`. -/
structure IngestCall where
  environment : Receipts.IngestEnvironment
  accountId : Uuid
  submissionId : Uuid
  bytes : List UInt8
  mimeType : String
  extractJobId : Uuid
  accountIsHyphenated : accountId.IsHyphenated
  submissionIsHyphenated : submissionId.IsHyphenated

namespace OriginalCompensation

open Receipts

/-- The session of a call. -/
def serve (call : IngestCall) : Operation IngestOutcome :=
  ingest call.environment call.accountId call.submissionId call.bytes
    call.mimeType call.extractJobId

/-- The object that a session is about to delete. -/
def deletesNext {Value : Type} : Operation Value → Option String
  | .emit .deleteObject (.object objectKey) _ _ _ => some objectKey
  | .rollback next => deletesNext next
  | _ => none

/-- The key of an object is held by a committed active asset. -/
def HoldsActive (store : BotStore) (objectKey : String) : Prop :=
  ∃ id asset, store (.asset id) = some asset ∧
    asset.objectKey = objectKey ∧ asset.deletionState = .active

/-- The steps of runs in which compensations are safe: the lookup of a
compensation does not fail while an active asset holds the key, and no asset
is committed while another ingest is about to delete its object. -/
def compensatesSafely
    (pool : Pool (Database BotRow ReceiptEvent)
      (SessionTask BotRow ReceiptEvent ReceiptFailure IngestOutcome))
    (label : Nat × SessionLabel IngestCall) : Prop :=
  ∀ own rest, pool.tasks label.1 = some (.running own rest) →
    (label.2 = .fault → ∀ next failed objectKey, rest = .read next failed →
      deletesNext failed = some objectKey →
        ¬ HoldsActive pool.world.store objectKey) ∧
    (label.2 = .advance ∨ label.2 = .loseAcknowledgement →
      ∀ event next failed, rest = .commit event next failed →
        ∀ other otherOwn otherRest objectKey, other ≠ label.1 →
          pool.tasks other = some (.running otherOwn otherRest) →
          deletesNext otherRest = some objectKey →
          HoldsActive (own.view pool.world.store) objectKey →
            HoldsActive pool.world.store objectKey)

/-- An asset row under the key that its object has. -/
structure Named (id : Uuid) (asset : AssetRow) : Prop where
  objectKey : asset.objectKey =
    receiptObjectKey asset.accountId id asset.image.contentSha256
  account : asset.accountId.IsHyphenated
  submission : id.IsHyphenated

/-- All assets are named after their objects. -/
def AssetsNamed (store : BotStore) : Prop :=
  ∀ id asset, store (.asset id) = some asset → Named id asset

/-- What ingests write. -/
def ingestWrites : ∀ key : BotKey, Option (BotRow key) → Prop
  | .asset id, some asset => Named id asset
  | .object _, _ => False
  | _, _ => True

/-- What ingests do outside the database before any compensation. -/
def ingestEmits (event : ReceiptEvent) (key : BotKey)
    (row : Option (BotRow key)) : Prop :=
  event ≠ .deleteObject ∧ row.isSome ∧ ∃ objectKey, key = .object objectKey

/-- Uncommitted writes of an ingest. -/
def NamedOverlay (own : Overlay BotRow) : Prop :=
  ∀ key row, own key = some row → ingestWrites key row

theorem namedOverlay_none : NamedOverlay Overlay.none := by
  intro key row written
  contradiction

theorem NamedOverlay.set {own : Overlay BotRow} {key : BotKey}
    {row : Option (BotRow key)} (named : NamedOverlay own)
    (allowed : ingestWrites key row) : NamedOverlay (own.set key row) := by
  intro other otherRow written
  by_cases same : other = key
  · subst same
    rw [Overlay.set, Function.update_self] at written
    cases written
    exact allowed
  · rw [Overlay.set, Function.update_of_ne same] at written
    exact named other otherRow written

theorem AssetsNamed.view {own : Overlay BotRow} {store : BotStore}
    (namedStore : AssetsNamed store) (named : NamedOverlay own) :
    AssetsNamed (own.view store) := by
  intro id asset present
  cases written : own (.asset id) with
  | none =>
      simp only [Overlay.view, written, Option.getD_none] at present
      exact namedStore id asset present
  | some row =>
      simp only [Overlay.view, written, Option.getD_some] at present
      subst present
      exact named _ _ written

theorem NamedOverlay.view_object {own : Overlay BotRow} {store : BotStore}
    (named : NamedOverlay own) (objectKey : String) :
    own.view store (.object objectKey) = store (.object objectKey) := by
  cases written : own (.object objectKey) with
  | none => simp [Overlay.view, written]
  | some row => exact (named _ _ written).elim

/-- A session that deletes objects only right after it has found no asset
that they could belong to, or after that lookup has failed. -/
def Careful {Value : Type} (rest : Operation Value) (own : Overlay BotRow) :
    Prop :=
  match rest with
  | .done _ => True
  | .fail _ => True
  | .read next failed =>
      (∀ store, AssetsNamed store → Careful (next (own.view store)) own ∧
        ∀ objectKey, deletesNext (next (own.view store)) = some objectKey →
          ¬ HoldsActive store objectKey) ∧
      Careful failed own
  | .lock _ _ _ next failed =>
      (∀ row, Careful (next row) own ∧ deletesNext (next row) = none) ∧
      Careful failed own ∧ deletesNext failed = none
  | .write key row next =>
      ingestWrites key row ∧ Careful next (own.set key row) ∧
        deletesNext next = none
  | .commit _ next failed =>
      (Careful next Overlay.none ∧ deletesNext next = none) ∧
      Careful failed Overlay.none ∧ deletesNext failed = none
  | .rollback next => Careful next Overlay.none
  | .emit event key row next failed =>
      (∃ objectKey, key = .object objectKey) ∧
      (row = none → ∃ objectKey, key = .object objectKey ∧
        deletesNext (.emit event key row next failed) = some objectKey) ∧
      (Careful next own ∧ deletesNext next = none) ∧
      Careful failed own ∧ deletesNext failed = none

section Sessions

variable {Value Other : Type} {own : Overlay BotRow}

/-- A session without compensation, followed by one that does not begin with
a deletion. -/
theorem careful_bind {first : Operation Value}
    {rest : Value → Operation Other}
    (behaves : first.Behaves ingestWrites ingestEmits own fun value own =>
      Careful (rest value) own ∧ deletesNext (rest value) = none) :
    Careful (first >>= rest) own ∧ deletesNext (first >>= rest) = none := by
  change Careful (first.bind rest) own ∧ deletesNext (first.bind rest) = none
  induction first generalizing own with
  | done value => exact behaves
  | fail error => exact ⟨trivial, rfl⟩
  | read next failed ihNext ihFailed =>
      refine ⟨⟨fun store _ => ?_, (ihFailed behaves.2).1⟩, rfl⟩
      have after := ihNext (own.view store) (behaves.1 _)
      refine ⟨after.1, fun objectKey deletes => ?_⟩
      rw [after.2] at deletes
      contradiction
  | lock mode key wanted next failed ihNext ihFailed =>
      exact ⟨⟨fun row => ihNext row (behaves.1 row), ihFailed behaves.2⟩, rfl⟩
  | write key row next ihNext =>
      exact ⟨⟨behaves.1, ihNext behaves.2⟩, rfl⟩
  | commit event next failed ihNext ihFailed =>
      exact ⟨⟨ihNext behaves.1, ihFailed behaves.2⟩, rfl⟩
  | rollback next ihNext => exact ihNext behaves
  | emit event key row next failed ihNext ihFailed =>
      obtain ⟨⟨notDeletion, present, objectKey, rfl⟩, behavesNext,
        behavesFailed⟩ := behaves
      refine ⟨⟨⟨objectKey, rfl⟩, fun absent => ?_, ihNext behavesNext,
        ihFailed behavesFailed⟩, ?_⟩
      · rw [absent] at present
        contradiction
      · cases event <;> first | rfl | exact absurd rfl notDeletion

end Sessions

section Statements

variable {Value : Type} {own : Overlay BotRow}

/-- Statements that write neither assets nor objects. -/
abbrev LeavesOriginals (part : Operation Value) : Prop :=
  part.WritesWithin (fun key => ∀ row, ingestWrites key row) fun _ => True

theorem LeavesOriginals.behaves {part : Operation Value}
    (leaves : LeavesOriginals part) :
    part.Behaves ingestWrites ingestEmits own fun _ _ => True :=
  Session.WritesWithin.behaves leaves fun _ row free => free row

theorem leavesOriginals_loadSubmission {submissionId accountId : Uuid} :
    LeavesOriginals (loadSubmission submissionId accountId) :=
  within_loadSubmission.mono (fun _ => id) fun _ _ => trivial

theorem leavesOriginals_loadSubmissionForUpdate
    {submissionId accountId : Uuid} :
    LeavesOriginals (loadSubmissionForUpdate submissionId accountId) :=
  writesWithin_loadSubmissionForUpdate

theorem leavesOriginals_transitionState {now : Timestamp}
    {submissionId accountId : Uuid} {current next : ReceiptState}
    {failureErrorClass : Option String} {reviewExpiryHours : Option Int}
    {confirmedExpenseId duplicateOfSubmissionId : Option Uuid} :
    LeavesOriginals (transitionState now submissionId accountId current next
      failureErrorClass reviewExpiryHours confirmedExpenseId
      duplicateOfSubmissionId) :=
  writesWithin_transitionState fun _ => trivial

theorem leavesOriginals_enqueueReceiptJob {now : Timestamp} {jobId : Uuid}
    {jobType : String} {submissionId accountId : Uuid} :
    LeavesOriginals
      (enqueueReceiptJob now jobId jobType submissionId accountId) :=
  (within_enqueueReceiptJob fun _ _ => trivial).mono (fun _ => id)
    fun _ _ => trivial

theorem behaves_commit {event : ReceiptEvent}
    {post : Unit → Overlay BotRow → Prop}
    (committed : post () Overlay.none) :
    (commit event).Behaves ingestWrites ingestEmits own post :=
  ⟨committed, trivial⟩

theorem behaves_insertAsset {now : Timestamp}
    {assetId submissionId accountId : Uuid} {image : ValidatedImage}
    (account : accountId.IsHyphenated)
    (submission : submissionId.IsHyphenated) :
    (insertAsset now assetId submissionId accountId
      (receiptObjectKey accountId submissionId image.contentSha256)
      image : Operation _).Behaves ingestWrites ingestEmits own
        fun _ _ => True := by
  refine .andThen (Session.behaves_query fun _ => trivial) fun found _ => ?_
  cases found with
  | none => trivial
  | some row =>
      refine .andThen (Session.behaves_insertRow
        ⟨rfl, account, submission⟩ trivial trivial)
        fun submissionFree _ => ?_
      cases submissionFree with
      | false => trivial
      | true =>
          refine .andThen (Session.behaves_insertRow trivial trivial
            trivial) fun imageFree _ => ?_
          cases imageFree with
          | false => exact ⟨trivial, trivial⟩
          | true => trivial

theorem behaves_markFailure {now : Timestamp}
    {submissionId accountId : Uuid} {terminalState : ReceiptState}
    {errorClass : ErrorClass} {post : Unit → Overlay BotRow → Prop}
    (ended : post () Overlay.none) :
    (markFailure now submissionId accountId terminalState
      errorClass).Behaves ingestWrites ingestEmits own post := by
  refine .andThen leavesOriginals_loadSubmissionForUpdate.behaves
    fun current _ => ?_
  split
  · exact .andThen leavesOriginals_transitionState.behaves
      fun _ _ => behaves_commit ended
  · exact behaves_commit ended

theorem behaves_absorbDuplicate {now : Timestamp}
    {submissionId accountId originalSubmissionId : Uuid}
    {post : Unit → Overlay BotRow → Prop} (ended : post () Overlay.none) :
    (absorbDuplicate now submissionId accountId
      originalSubmissionId).Behaves ingestWrites ingestEmits own post := by
  refine .andThen leavesOriginals_loadSubmissionForUpdate.behaves
    fun current _ => ?_
  split
  · exact behaves_commit ended
  · exact .andThen leavesOriginals_transitionState.behaves
      fun _ _ => behaves_commit ended

/-- The transaction of an ingest ends with nothing uncommitted. -/
theorem behaves_persistStoredIngest {environment : IngestEnvironment}
    {accountId submissionId extractJobId : Uuid} {image : ValidatedImage}
    (account : accountId.IsHyphenated)
    (submission : submissionId.IsHyphenated) :
    (persistStoredIngest environment accountId submissionId
      (receiptObjectKey accountId submissionId image.contentSha256) image
      extractJobId).Behaves ingestWrites ingestEmits own
        fun _ own => own = Overlay.none := by
  refine .andThen leavesOriginals_loadSubmissionForUpdate.behaves
    fun current _ => ?_
  split
  · exact .bind (behaves_commit rfl) fun _ _ nothing => nothing
  split
  · exact rfl
  split
  · exact trivial
  refine .andThen leavesOriginals_transitionState.behaves fun _ _ => ?_
  refine .andThen (behaves_insertAsset account submission)
    fun insertion _ => ?_
  cases insertion with
  | inserted =>
      refine .andThen leavesOriginals_enqueueReceiptJob.behaves
        fun _ _ => ?_
      exact .bind (behaves_commit rfl) fun _ _ nothing => nothing
  | uniqueConflict =>
      change Session.Behaves _ _ (findActiveDuplicate _ _ >>= _) _ _
      have lookup : (findActiveDuplicate accountId image.contentSha256 :
          Operation _).Behaves ingestWrites ingestEmits Overlay.none
            fun _ own => own = Overlay.none :=
        Session.behaves_query fun _ => rfl
      refine .bind lookup fun original own nothing => ?_
      split
      · exact .bind (behaves_absorbDuplicate rfl) fun _ _ nothing => nothing
      · exact nothing

/-- A compensation deletes its object only after it has found no asset of its
submission, which is the only one under that key. -/
theorem careful_compensateOrphanObject {environment : IngestEnvironment}
    {accountId submissionId : Uuid} {contentSha256 : String}
    {rest : Unit → Operation Value}
    (account : accountId.IsHyphenated)
    (submission : submissionId.IsHyphenated)
    (restCareful : Careful (rest ()) Overlay.none)
    (restKeeps : deletesNext (rest ()) = none) :
    Careful (compensateOrphanObject environment accountId submissionId
        (receiptObjectKey accountId submissionId contentSha256) >>= rest)
      Overlay.none := by
  have deletes : Careful
      ((deleteObject environment.objectStoreError
        (receiptObjectKey accountId submissionId contentSha256)).attempt >>=
          fun _ => rest ()) Overlay.none :=
    ⟨⟨_, rfl⟩, fun _ => ⟨_, rfl, rfl⟩, ⟨restCareful, restKeeps⟩,
      restCareful, restKeeps⟩
  refine ⟨fun store named => ?_, deletes⟩
  simp only [Overlay.none_view, Session.attempt, Session.bind]
  cases found : Option.filter (fun asset => decide (asset.accountId =
      accountId)) (store (.asset submissionId)) with
  | some asset =>
      refine ⟨restCareful, fun objectKey next => ?_⟩
      have keeps := next.symm.trans restKeeps
      contradiction
  | none =>
      refine ⟨deletes, fun objectKey next => ?_⟩
      obtain rfl : receiptObjectKey accountId submissionId contentSha256 =
        objectKey := Option.some.inj next
      rintro ⟨id, asset, present, sameKey, _⟩
      obtain ⟨nameOf, assetAccount, assetSubmission⟩ := named id asset present
      obtain ⟨rfl, rfl⟩ := receiptObjectKey_inj assetAccount account
        assetSubmission submission (nameOf.symm.trans sameKey)
      rw [present] at found
      simp at found

end Statements

/-- Ingests are careful. -/
theorem careful_serve (call : IngestCall) :
    Careful (serve call) Overlay.none ∧ deletesNext (serve call) = none := by
  refine careful_bind (Session.behaves_query fun view => ?_)
  split
  case isFalse => exact ⟨trivial, rfl⟩
  refine careful_bind (.mono ?_ leavesOriginals_loadSubmission.behaves)
  intro row own _
  refine careful_bind (Session.behaves_query fun view => ?_)
  split
  · exact ⟨trivial, rfl⟩
  split
  · exact ⟨trivial, rfl⟩
  split
  · exact ⟨trivial, rfl⟩
  split
  · exact careful_bind (behaves_markFailure ⟨trivial, rfl⟩)
  refine careful_bind (Session.behaves_query fun view => ?_)
  split
  · exact careful_bind (behaves_absorbDuplicate ⟨trivial, rfl⟩)
  refine careful_bind ⟨⟨by simp, rfl, _, rfl⟩, ?_, trivial⟩
  refine careful_bind (.attempt (.mono ?_ (behaves_persistStoredIngest
    call.accountIsHyphenated call.submissionIsHyphenated)) ?_)
  · rintro outcome own rfl
    cases outcome with
    | stored submissionId contentSha256 => exact ⟨trivial, rfl⟩
    | alreadyStored submissionId => exact ⟨trivial, rfl⟩
    | duplicateAbsorbed submissionId original =>
        exact ⟨careful_compensateOrphanObject call.accountIsHyphenated
          call.submissionIsHyphenated trivial rfl, rfl⟩
    | alreadyTerminal state =>
        exact ⟨careful_compensateOrphanObject call.accountIsHyphenated
          call.submissionIsHyphenated trivial rfl, rfl⟩
  · intro error
    exact ⟨careful_compensateOrphanObject call.accountIsHyphenated
      call.submissionIsHyphenated trivial rfl, rfl⟩

/-- A publication that removes no object of a committed active asset. -/
def Spares (publication : Publication BotRow ReceiptEvent) : Prop :=
  ∀ objectKey, publication.before (.object objectKey) ≠ none →
    publication.after (.object objectKey) = none →
      ¬ HoldsActive publication.before objectKey

/-- The database along runs of ingests. -/
structure Spared (database : Database BotRow ReceiptEvent) : Prop where
  named : AssetsNamed database.store
  log : ∀ publication ∈ database.log, Spares publication

/-- A task that is careful from here on. -/
def CarefulTask (database : Database BotRow ReceiptEvent) (_ : Nat) :
    Option (SessionTask BotRow ReceiptEvent ReceiptFailure IngestOutcome) →
      Prop
  | some (.running own rest) =>
      NamedOverlay own ∧ Careful rest own ∧
        ∀ objectKey, deletesNext rest = some objectKey →
          ¬ HoldsActive database.store objectKey
  | _ => True

section Steps

variable {database : Database BotRow ReceiptEvent} {owner : Nat}
variable {own : Overlay BotRow} {rest : Operation IngestOutcome}

theorem CarefulTask.of_keeps {chosen : Operation IngestOutcome}
    (named : NamedOverlay own) (careful : Careful chosen own)
    (keeps : deletesNext chosen = none) :
    CarefulTask database owner (some (.running own chosen)) := by
  refine ⟨named, careful, fun objectKey deletes => ?_⟩
  rw [keeps] at deletes
  contradiction

theorem CarefulTask.other {after : Database BotRow ReceiptEvent}
    {task : Option (SessionTask BotRow ReceiptEvent ReceiptFailure
      IngestOutcome)}
    (careful : CarefulTask database owner task)
    (stays : ∀ own rest objectKey, task = some (.running own rest) →
      deletesNext rest = some objectKey →
      HoldsActive after.store objectKey →
        HoldsActive database.store objectKey) :
    CarefulTask after owner task := by
  cases task with
  | none => trivial
  | some task =>
      cases task with
      | running own rest =>
          refine ⟨careful.1, careful.2.1, fun objectKey deletes holds => ?_⟩
          exact careful.2.2 objectKey deletes
            (stays own rest objectKey rfl deletes holds)
      | ended result => trivial
      | dropped => trivial

/-- Commits of ingests remove no objects. -/
theorem Spared.commit {event : ReceiptEvent} (spared : Spared database)
    (named : NamedOverlay own) :
    Spared ((database.publish owner event
      (own.view database.store)).release owner) where
  named := spared.named.view named
  log publication member := by
    rcases List.mem_cons.mp member with rfl | earlier
    · intro objectKey present absent
      exact absurd ((named.view_object objectKey).symm.trans absent) present
    · exact spared.log publication earlier

theorem holdsActive_update_object {store : BotStore}
    {objectKey other : String} {row : Option (List UInt8)} :
    HoldsActive (Function.update store (.object objectKey) row) other ↔
      HoldsActive store other := by
  simp [HoldsActive]

/-- An effect on an object that no active asset holds if it is removed. -/
theorem Spared.emit {event : ReceiptEvent} {objectKey : String}
    {row : Option (List UInt8)} (spared : Spared database)
    (free : row = none → ¬ HoldsActive database.store objectKey) :
    Spared (database.publish owner event
      (Function.update database.store (.object objectKey) row)) where
  named id asset present := by
    have earlier : database.store (.asset id) = some asset := by
      simpa [Database.publish] using present
    exact spared.named id asset earlier
  log publication member := by
    rcases List.mem_cons.mp member with rfl | earlier
    · intro other present absent
      by_cases same : other = objectKey
      · subst same
        exact free (by simpa using absent)
      · simp [same] at absent
        exact absurd absent present
    · exact spared.log publication earlier

/-- What every action of an ingest keeps. -/
structure StepSpared (owner : Nat)
    (tasks : Nat → Option (SessionTask BotRow ReceiptEvent ReceiptFailure
      IngestOutcome))
    (after : Database BotRow ReceiptEvent)
    (task : Option (SessionTask BotRow ReceiptEvent ReceiptFailure
      IngestOutcome)) : Prop where
  shared : Spared after
  own : CarefulTask after owner task
  others : ∀ other, other ≠ owner → CarefulTask after other (tasks other)

variable {pool : Pool (Database BotRow ReceiptEvent)
  (SessionTask BotRow ReceiptEvent ReceiptFailure IngestOutcome)}
variable {after : Database BotRow ReceiptEvent}
variable {task : Option (SessionTask BotRow ReceiptEvent ReceiptFailure
  IngestOutcome)}

/-- An action that leaves the committed rows alone. -/
theorem StepSpared.quiet (holds : Holds Spared CarefulTask pool)
    (sameStore : after.store = pool.world.store)
    (sameLog : after.log = pool.world.log)
    (careful : CarefulTask after owner task) :
    StepSpared owner pool.tasks after task where
  shared :=
    ⟨sameStore ▸ holds.shared.named, sameLog ▸ holds.shared.log⟩
  own := careful
  others other _ := (holds.own other).other
    fun _ _ _ _ _ stillHolds => sameStore ▸ stillHolds

/-- A commit, acknowledged or not. -/
theorem StepSpared.commit {event : ReceiptEvent}
    {next failed chosen : Operation IngestOutcome}
    {label : SessionLabel IngestCall}
    (holds : Holds Spared CarefulTask pool)
    (running : pool.tasks owner =
      some (.running own (.commit event next failed)))
    (permitted : compensatesSafely pool (owner, label))
    (commits : label = .advance ∨ label = .loseAcknowledgement)
    (careful : Careful chosen Overlay.none)
    (keeps : deletesNext chosen = none) :
    StepSpared owner pool.tasks
      ((pool.world.publish owner event
        (own.view pool.world.store)).release owner)
      (some (.running Overlay.none chosen)) where
  shared := by
    have mine := holds.own owner
    rw [running] at mine
    exact holds.shared.commit mine.1
  own := .of_keeps namedOverlay_none careful keeps
  others other different := by
    refine (holds.own other).other ?_
    intro otherOwn otherRest objectKey otherRunning deletes stillHolds
    exact (permitted own _ running).2 commits event next failed rfl other
      otherOwn otherRest objectKey different otherRunning deletes stillHolds

/-- An effect on an object, acknowledged or not. -/
theorem StepSpared.emit {event : ReceiptEvent} {key : BotKey}
    {row : Option (BotRow key)} {next failed chosen : Operation IngestOutcome}
    (holds : Holds Spared CarefulTask pool)
    (running : pool.tasks owner =
      some (.running own (.emit event key row next failed)))
    (isChosen : chosen = next ∨ chosen = failed) :
    StepSpared owner pool.tasks
      (pool.world.publish owner event
        (Function.update pool.world.store key row))
      (some (.running own chosen)) := by
  have mine := holds.own owner
  rw [running] at mine
  obtain ⟨named, ⟨⟨objectKey, rfl⟩, removes, carefulNext, carefulFailed⟩,
    free⟩ := mine
  refine ⟨holds.shared.emit fun absent => ?_, ?_, fun other _ => ?_⟩
  · obtain ⟨removed, same, deletes⟩ := removes absent
    cases same
    exact free _ deletes
  · rcases isChosen with rfl | rfl
    · exact .of_keeps named carefulNext.1 carefulNext.2
    · exact .of_keeps named carefulFailed.1 carefulFailed.2
  · exact (holds.own other).other fun _ _ _ _ _ stillHolds =>
      holdsActive_update_object.mp stillHolds

variable {reached : SessionTask BotRow ReceiptEvent ReceiptFailure
  IngestOutcome}

/-- The next statement of an ingest succeeds. -/
theorem StepSpared.advance (holds : Holds Spared CarefulTask pool)
    (running : pool.tasks owner = some (.running own rest))
    (permitted : compensatesSafely pool (owner, .advance))
    (stepTo : Sessions.advance pool.world owner own rest =
      some (after, reached)) :
    StepSpared owner pool.tasks after (some reached) := by
  have mine := holds.own owner
  rw [running] at mine
  obtain ⟨named, careful, free⟩ := mine
  cases rest with
  | done value =>
      simp only [Sessions.advance, Option.some.injEq, Prod.mk.injEq] at stepTo
      obtain ⟨rfl, rfl⟩ := stepTo
      exact .quiet holds rfl rfl trivial
  | fail error =>
      simp only [Sessions.advance, Option.some.injEq, Prod.mk.injEq] at stepTo
      obtain ⟨rfl, rfl⟩ := stepTo
      exact .quiet holds rfl rfl trivial
  | read next failed =>
      simp only [Sessions.advance, Option.some.injEq, Prod.mk.injEq] at stepTo
      obtain ⟨rfl, rfl⟩ := stepTo
      have carefulNext := careful.1 pool.world.store holds.shared.named
      exact .quiet holds rfl rfl ⟨named, carefulNext.1, carefulNext.2⟩
  | lock mode key wanted next failed =>
      have carefulNext := careful.1 (own.view pool.world.store key)
      simp only [Sessions.advance] at stepTo
      split at stepTo
      · split at stepTo
        · simp only [Option.some.injEq, Prod.mk.injEq] at stepTo
          obtain ⟨rfl, rfl⟩ := stepTo
          exact .quiet holds rfl rfl
            (.of_keeps named carefulNext.1 carefulNext.2)
        · contradiction
      · simp only [Option.some.injEq, Prod.mk.injEq] at stepTo
        obtain ⟨rfl, rfl⟩ := stepTo
        exact .quiet holds rfl rfl
          (.of_keeps named carefulNext.1 carefulNext.2)
  | write key row next =>
      simp only [Sessions.advance] at stepTo
      split at stepTo
      · simp only [Option.some.injEq, Prod.mk.injEq] at stepTo
        obtain ⟨rfl, rfl⟩ := stepTo
        exact .quiet holds rfl rfl
          (.of_keeps (named.set careful.1) careful.2.1 careful.2.2)
      · contradiction
  | commit event next failed =>
      simp only [Sessions.advance, Option.some.injEq, Prod.mk.injEq] at stepTo
      obtain ⟨rfl, rfl⟩ := stepTo
      exact .commit holds running permitted (Or.inl rfl) careful.1.1
        careful.1.2
  | rollback next =>
      simp only [Sessions.advance, Option.some.injEq, Prod.mk.injEq] at stepTo
      obtain ⟨rfl, rfl⟩ := stepTo
      exact .quiet holds rfl rfl ⟨namedOverlay_none, careful, free⟩
  | emit event key row next failed =>
      simp only [Sessions.advance] at stepTo
      split at stepTo
      · simp only [Option.some.injEq, Prod.mk.injEq] at stepTo
        obtain ⟨rfl, rfl⟩ := stepTo
        exact .emit holds running (Or.inl rfl)
      · contradiction

/-- The next statement of an ingest fails without any effect. -/
theorem StepSpared.fault (holds : Holds Spared CarefulTask pool)
    (running : pool.tasks owner = some (.running own rest))
    (permitted : compensatesSafely pool (owner, .fault))
    (stepTo : Sessions.fault pool.world owner own rest =
      some (after, reached)) :
    StepSpared owner pool.tasks after (some reached) := by
  have mine := holds.own owner
  rw [running] at mine
  obtain ⟨named, careful, free⟩ := mine
  cases rest with
  | read next failed =>
      simp only [Sessions.fault, Option.some.injEq, Prod.mk.injEq] at stepTo
      obtain ⟨rfl, rfl⟩ := stepTo
      refine .quiet holds rfl rfl ⟨named, careful.2, ?_⟩
      intro objectKey deletes
      exact (permitted own _ running).1 rfl next failed objectKey rfl deletes
  | lock mode key wanted next failed =>
      simp only [Sessions.fault, Option.some.injEq, Prod.mk.injEq] at stepTo
      obtain ⟨rfl, rfl⟩ := stepTo
      exact .quiet holds rfl rfl (.of_keeps named careful.2.1 careful.2.2)
  | commit event next failed =>
      simp only [Sessions.fault, Option.some.injEq, Prod.mk.injEq] at stepTo
      obtain ⟨rfl, rfl⟩ := stepTo
      exact .quiet holds rfl rfl
        (.of_keeps namedOverlay_none careful.2.1 careful.2.2)
  | emit event key row next failed =>
      simp only [Sessions.fault, Option.some.injEq, Prod.mk.injEq] at stepTo
      obtain ⟨rfl, rfl⟩ := stepTo
      have carefulFailed := careful.2.2.2
      exact .quiet holds rfl rfl
        (.of_keeps named carefulFailed.1 carefulFailed.2)
  | _ => simp [Sessions.fault] at stepTo

/-- The next effect of an ingest happens, but reports a failure. -/
theorem StepSpared.loseAcknowledgement
    (holds : Holds Spared CarefulTask pool)
    (running : pool.tasks owner = some (.running own rest))
    (permitted : compensatesSafely pool (owner, .loseAcknowledgement))
    (stepTo : Sessions.loseAcknowledgement pool.world owner own rest =
      some (after, reached)) :
    StepSpared owner pool.tasks after (some reached) := by
  have mine := holds.own owner
  rw [running] at mine
  obtain ⟨named, careful, free⟩ := mine
  cases rest with
  | commit event next failed =>
      simp only [Sessions.loseAcknowledgement, Option.some.injEq,
        Prod.mk.injEq] at stepTo
      obtain ⟨rfl, rfl⟩ := stepTo
      exact .commit holds running permitted (Or.inr rfl) careful.2.1
        careful.2.2
  | emit event key row next failed =>
      simp only [Sessions.loseAcknowledgement] at stepTo
      split at stepTo
      · simp only [Option.some.injEq, Prod.mk.injEq] at stepTo
        obtain ⟨rfl, rfl⟩ := stepTo
        exact .emit holds running (Or.inr rfl)
      · contradiction
  | _ => simp [Sessions.loseAcknowledgement] at stepTo

/-- Every permitted action of an ingest. -/
theorem StepSpared.act {label : SessionLabel IngestCall}
    (holds : Holds Spared CarefulTask pool)
    (permitted : compensatesSafely pool (owner, label))
    (acted : sessionAct serve pool.world owner (pool.tasks owner) label =
      some (after, task)) :
    StepSpared owner pool.tasks after task := by
  unfold sessionAct at acted
  split at acted
  · simp only [Option.some.injEq, Prod.mk.injEq] at acted
    obtain ⟨rfl, rfl⟩ := acted
    have careful := careful_serve ‹IngestCall›
    exact .quiet holds rfl rfl
      (.of_keeps namedOverlay_none careful.1 careful.2)
  · rename_i running
    obtain ⟨_, stepTo, same⟩ := Option.map_eq_some_iff.mp acted
    cases same
    exact .advance holds running permitted stepTo
  · rename_i running
    obtain ⟨_, stepTo, same⟩ := Option.map_eq_some_iff.mp acted
    cases same
    exact .fault holds running permitted stepTo
  · rename_i running
    obtain ⟨_, stepTo, same⟩ := Option.map_eq_some_iff.mp acted
    cases same
    exact .loseAcknowledgement holds running permitted stepTo
  · simp only [Option.some.injEq, Prod.mk.injEq] at acted
    obtain ⟨rfl, rfl⟩ := acted
    exact .quiet holds rfl rfl trivial
  · contradiction

end Steps

/-- In runs of ingests whose compensations are safe, no ingest deletes the
object of a committed active asset. -/
theorem ingests_spare_originals {initial : BotStore}
    (named : AssetsNamed initial)
    {pool : Pool (Database BotRow ReceiptEvent)
      (SessionTask BotRow ReceiptEvent ReceiptFailure IngestOutcome)}
    (run : Reaches (poolStep (sessionAct serve)) compensatesSafely
      (Pool.idle (Database.fresh initial)) pool) :
    ∀ publication ∈ pool.world.log, Spares publication := by
  have holds : Holds Spared CarefulTask pool := by
    refine Holds.reaches ?_ run ⟨⟨named, by simp [Pool.idle,
      Database.fresh]⟩, fun _ => trivial⟩
    intro pool index label world task holds permitted acted
    have spared := StepSpared.act holds permitted acted
    exact ⟨spared.shared, spared.own, spared.others⟩
  exact holds.shared.log

section Runs

/-- A single session none of whose statements fails. -/
theorem permits_alone (owner : Nat)
    {labels : List (Nat × SessionLabel IngestCall)}
    (faultless : ∀ label ∈ labels, label.1 = owner ∧ label.2 ≠ .fault)
    {pool : Pool (Database BotRow ReceiptEvent)
      (SessionTask BotRow ReceiptEvent ReceiptFailure IngestOutcome)}
    (alone : ∀ other, other ≠ owner → pool.tasks other = none) :
    permits (poolStep (sessionAct serve)) compensatesSafely pool labels := by
  induction labels generalizing pool with
  | nil => trivial
  | cons label labels ih =>
      obtain ⟨index, label⟩ := label
      obtain ⟨rfl, noFault⟩ := faultless _ List.mem_cons_self
      refine ⟨fun own rest _ => ⟨fun isFault => absurd isFault noFault, ?_⟩,
        fun next stepTo => ?_⟩
      · intro _ event next failed _ other otherOwn otherRest objectKey
          different running
        rw [alone other different] at running
        contradiction
      · obtain ⟨world, task, _, rfl⟩ := poolStep_eq_some stepTo
        refine ih (fun label member =>
          faultless label (List.mem_cons_of_mem _ member)) ?_
        intro other different
        simpa only [Function.update_of_ne different] using
          alone other different

def anAccount : Uuid :=
  ⟨"6f1c2a58-3d0e-4b7a-9c55-0d4f8f0a1b2c"⟩

def aSubmission : Uuid :=
  ⟨"b2d94c10-7e61-4f3b-8a27-5c9e1d3f6a48"⟩

/-- An account with one queued submission. -/
def oneQueued : BotStore
  | .account id =>
      if id = anAccount then
        some ⟨.active, some "v1", some 0, "vi", "Asia/Ho_Chi_Minh", 30, "VND"⟩
      else
        none
  | .submission id =>
      if id = aSubmission then
        some ⟨anAccount, none, .queued, 2, none, none, none, none,
          [.queued, .pending]⟩
      else
        none
  | _ => none

theorem assetsNamed_oneQueued : AssetsNamed oneQueued := by
  intro id asset present
  contradiction

/-- An ingest of the queued submission. -/
def anIngest : IngestCall where
  environment :=
    ⟨1, fun bytes mimeType => .ok ⟨"c0ffee", mimeType, bytes.length, 1, 1⟩,
      ⟨"5a7be3a0-91c4-4d0e-b6f2-3c8d7e9f0a1b"⟩,
      .dependency "object store failed"⟩
  accountId := anAccount
  submissionId := aSubmission
  bytes := [1, 2, 3]
  mimeType := "image/png"
  extractJobId := ⟨"e4d3c2b1-a098-4765-8321-0fedcba98765"⟩
  accountIsHyphenated := rfl
  submissionIsHyphenated := rfl

/-- The ingest commits, but the acknowledgement of the commit is lost. -/
def unacknowledgedRun : List (Nat × SessionLabel IngestCall) :=
  List.flatten [[(0, .begin anIngest)], .replicate 17 (0, .advance),
    [(0, .loseAcknowledgement)]]

/-- The lookup of the compensation finds the asset. -/
theorem ingests_spare_originals_unacknowledged :
    ∃ pool, runLabels (poolStep (sessionAct serve))
        (Pool.idle (Database.fresh oneQueued))
        (unacknowledgedRun ++ List.replicate 3 (0, .advance)) = some pool ∧
      pool.tasks 0 = some (.ended
        (.error (.refused (.dependency "commit failed")))) ∧
      HoldsActive pool.world.store
        (receiptObjectKey anAccount aSubmission "c0ffee") ∧
      ∀ publication ∈ pool.world.log, Spares publication := by
  have permitted : permits (poolStep (sessionAct serve)) compensatesSafely
      (Pool.idle (Database.fresh oneQueued))
      (unacknowledgedRun ++ List.replicate 3 (0, .advance)) := by
    refine permits_alone 0 ?_ fun _ _ => rfl
    intro label member
    simp only [unacknowledgedRun, List.flatten_cons, List.flatten_nil,
      List.cons_append, List.nil_append, List.append_assoc, List.mem_cons,
      List.mem_append, List.mem_replicate, List.not_mem_nil,
      false_or] at member
    rcases member with rfl | ⟨_, rfl⟩ | rfl | ⟨_, rfl⟩
    · exact ⟨rfl, nofun⟩
    · exact ⟨rfl, nofun⟩
    · exact ⟨rfl, nofun⟩
    · exact ⟨rfl, nofun⟩
  exact ⟨_, rfl, rfl, ⟨aSubmission, _, rfl, rfl, rfl⟩,
    ingests_spare_originals assetsNamed_oneQueued
      (reaches_of_runLabels permitted rfl)⟩

/-- The lookup of the compensation fails as well, and the compensation
deletes the object of the asset that the ingest has committed. -/
theorem ingest_deletes_committed_original :
    ∃ pool, SessionReaches serve (Pool.idle (Database.fresh oneQueued)) pool ∧
      ∃ publication ∈ pool.world.log, ¬ Spares publication := by
  refine ⟨_, reaches_of_runLabels (permits_anyStep _ (List.flatten
    [unacknowledgedRun,
      [(0, .advance), (0, .fault), (0, .advance), (0, .advance)]])) rfl,
    _, List.mem_cons_self, ?_⟩
  intro spares
  refine spares (receiptObjectKey anAccount aSubmission "c0ffee") ?_ rfl
    ⟨aSubmission, _, rfl, rfl, rfl⟩
  decide

end Runs

end OriginalCompensation

end ZaloBot
