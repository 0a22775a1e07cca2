import ZaloBot.TextOffsets
import ZaloBot.UpdateInstallation

/-!
# What an update leaves on disk

`run_apply` changes five files one after another and only a failed health check
restores the old ones.  For an update that starts with a binary and its
metadata installed, the conditions collected here say exactly when every error
leaves both as they were and when the snapshot describes itself in every state.
-/

namespace ZaloBot

namespace Updates

open FallibleSteps FallibleSteps.Fallible

variable {library : UpdateLibrary}

section Snapshots

/-- The metadata of the snapshot describes the binary of the snapshot. -/
def SnapshotConsistent (library : UpdateLibrary) (disk : Disk) : Prop :=
  ∀ binary metadata, disk.previousBinary = some binary →
    disk.previousMetadata = some (.valid metadata) →
    describes library metadata binary = true

theorem hexDigit_not_whitespace (value : Nat) :
    RustText.isWhitespace (hexDigit value) = false := by
  have small : ∀ digit : Fin 16,
      RustText.isWhitespace (Nat.digitChar digit) = false := by
    decide
  exact small ⟨value % 16, Nat.mod_lt _ (by decide)⟩

theorem encodeHex_not_whitespace (bytes : Bytes) :
    ∀ char ∈ (encodeHex bytes).toList, RustText.isWhitespace char = false := by
  intro char member
  simp only [encodeHex, String.toList_ofList, List.mem_flatMap] at member
  obtain ⟨byte, _, member⟩ := member
  simp only [List.mem_cons, List.not_mem_nil, or_false] at member
  rcases member with rfl | rfl <;> exact hexDigit_not_whitespace _

/-- The metadata made for a first snapshot describes the binary it is made
for. -/
theorem describes_snapshotMetadata (call : ApplyCall) (binary : Bytes) :
    describes library (snapshotMetadata library call binary) binary = true := by
  have solid := encodeHex_not_whitespace (library.sha256 binary)
  simp [describes, snapshotMetadata, RustText.trim_eq_ofList,
    RustText.trimChars_of_solid solid]

end Snapshots

section Replacing

variable {passing remains : Disk → Prop} {ended : Unit → Disk → Prop}
  {disk : Disk}

/-- Replacing a binary changes the staged copy only, until it ends well. -/
theorem meets_atomicReplace_iff {source : Bytes} {fault : Option ReplaceFault}
    (ignoresBinaries : ∀ installed staged,
      passing { disk with installed := installed, staged := staged } ↔
        passing disk)
    (ignoresStaged : ∀ staged,
      remains { disk with staged := staged } ↔ remains disk)
    (passes : passing disk) :
    (atomicReplace source fault).Meets passing ended (fun _ => remains)
        disk ↔
      if fault = none then
        ended () { disk with installed := some source, staged := none }
      else
        remains disk := by
  have staged (staging : Option Bytes) :
      passing { disk with staged := staging } :=
    (ignoresBinaries disk.installed staging).mpr passes
  have replaced : passing
      { disk with installed := some source, staged := none } :=
    (ignoresBinaries (some source) none).mpr passes
  rcases fault with _ | ⟨_ | fault | _ | _⟩ <;>
    simp [atomicReplace, passes, staged, replaced, ignoresStaged]

end Replacing

section Stages

variable {call : ApplyCall} {start disk : Disk} {binary : Bytes}
  {current metadata : UpdateMetadata}

/-- The installed binary and its metadata are as before the call. -/
def Unchanged (start disk : Disk) : Prop :=
  disk.installed = start.installed ∧
    disk.currentMetadata = start.currentMetadata

/-- The operations of the snapshot all end well. -/
def snapshots (faults : ApplyFaults) : Prop :=
  faults.copyInstalled = none ∧
    (faults.readCurrent = true → faults.hashInstalled = false) ∧
    faults.writePrevious = none

/-- The metadata that the snapshot records. -/
def snapshotted (library : UpdateLibrary) (call : ApplyCall) (binary : Bytes)
    (current : UpdateMetadata) : UpdateMetadata :=
  if call.faults.readCurrent then
    snapshotMetadata library call binary
  else
    current

/-- The disk after a snapshot. -/
def afterSnapshot (library : UpdateLibrary) (call : ApplyCall) (start : Disk)
    (binary : Bytes) (current : UpdateMetadata) : Disk :=
  { start with
    previousBinary := some binary
    previousMetadata := some (.valid (snapshotted library call binary current)) }

/-- A metadata file that described the binary still does after a write of
metadata that does, however the write ends. -/
theorem consistent_of_written {content : UpdateMetadata}
    (fault : Option WriteFault)
    (described : describes library content binary = true)
    (consistent : SnapshotConsistent library
      { start with previousBinary := some binary }) :
    SnapshotConsistent library
      { start with
        previousBinary := some binary
        previousMetadata :=
          written (.valid content) start.previousMetadata fault } := by
  intro left previous foundBinary foundMetadata
  cases Option.some.inj foundBinary
  rcases fault with _ | _ | _
  · cases MetadataFile.valid.inj (Option.some.inj foundMetadata)
    exact described
  · exact consistent binary previous rfl foundMetadata
  · nomatch Option.some.inj foundMetadata

theorem consistent_afterSnapshot
    (described : describes library current binary = true) :
    SnapshotConsistent library
      (afterSnapshot library call start binary current) := by
  intro left previous foundBinary foundMetadata
  cases Option.some.inj foundBinary
  cases MetadataFile.valid.inj (Option.some.inj foundMetadata)
  unfold snapshotted
  split
  · exact describes_snapshotMetadata call binary
  · exact described

theorem meets_snapshot_iff {ended : Unit → Disk → Prop}
    (installed : start.installed = some binary)
    (recorded : start.currentMetadata = some (.valid current))
    (described : describes library current binary = true) :
    (snapshot library call).Meets (SnapshotConsistent library) ended
        (fun _ => Unchanged start) start ↔
      (∀ left previous,
        copied binary start.previousBinary call.faults.copyInstalled =
            some left →
          start.previousMetadata = some (.valid previous) →
          describes library previous left = true) ∧
      (snapshots call.faults →
        ended () (afterSnapshot library call start binary current)) := by
  have unchanged (left : Option Bytes) (previous : Option MetadataFile) :
      Unchanged start
        { start with previousBinary := left, previousMetadata := previous } :=
    ⟨rfl, rfl⟩
  simp only [snapshot, copyInstalled, writePrevious, installed, recorded,
    meets_bind_iff, meets_look_iff, meets_step_iff]
  cases copying : call.faults.copyInstalled with
  | some fault =>
      simp [SnapshotConsistent, snapshots, Unchanged, installed, recorded,
        copying]
  | none =>
      refine and_congr_right fun consistent => ?_
      have described' : describes library
          (snapshotMetadata library call binary) binary = true :=
        describes_snapshotMetadata call binary
      have kept := consistent_of_written call.faults.writePrevious
        described consistent
      have made := consistent_of_written call.faults.writePrevious
        described' consistent
      cases reading : call.faults.readCurrent with
      | false =>
          cases writing : call.faults.writePrevious <;>
            simp_all [snapshots, afterSnapshot, snapshotted, written, copied]
      | true =>
          cases hashing : call.faults.hashInstalled <;>
            cases writing : call.faults.writePrevious <;>
              simp_all [snapshots, afterSnapshot, snapshotted, written, copied]

theorem meets_install_iff {ended : Unit → Disk → Prop}
    (installed : disk.installed = start.installed)
    (recorded : disk.currentMetadata = start.currentMetadata)
    (binaryOfStart : start.installed = some binary)
    (metadataOfStart : start.currentMetadata = some (.valid current))
    (consistent : SnapshotConsistent library disk) :
    (install call metadata).Meets (SnapshotConsistent library) ended
        (fun _ => Unchanged start) disk ↔
      (call.faults.replace = none →
        match call.faults.writeCurrent with
        | none =>
            ended ()
              { disk with
                installed := some (call.files.artifact.getD [])
                staged := none
                currentMetadata := some (.valid metadata) }
        | some fault =>
            call.files.artifact.getD [] = binary ∧ fault = .untouched) := by
  have unchanged : Unchanged start disk := ⟨installed, recorded⟩
  have replaced (file : Option MetadataFile) : SnapshotConsistent library
      { disk with
        installed := some (call.files.artifact.getD [])
        staged := none
        currentMetadata := file } :=
    consistent
  rw [install, meets_bind_iff, meets_atomicReplace_iff (fun _ _ => Iff.rfl)
    (fun _ => Iff.rfl) consistent]
  cases replacing : call.faults.replace with
  | some fault => simpa using unchanged
  | none =>
      cases writing : call.faults.writeCurrent with
      | none => simp [writeCurrent, replaced, written]
      | some fault =>
          cases fault <;>
            simp [writeCurrent, replaced, written, Unchanged, recorded,
              binaryOfStart, metadataOfStart]

/-- The migration is skipped or ends well. -/
def migrates (call : ApplyCall) : Prop :=
  call.options.skipMigrate = false → call.faults.migrate = none

theorem meets_migrate_iff {ended : Unit → Disk → Prop}
    {failed : AppError → Disk → Prop} {passing : Disk → Prop} :
    (migrate call).Meets passing ended failed disk ↔
      (migrates call → ended () disk) ∧
      (call.options.skipMigrate = false →
        ∀ error, call.faults.migrate = some error → failed error disk) := by
  cases skipped : call.options.skipMigrate <;>
    cases migrated : call.faults.migrate <;>
      simp [migrate, migrates, skipped, migrated]

/-- The operations that restore a snapshot all end well. -/
def restores (databaseSchema : Int) (snapshot : UpdateMetadata)
    (faults : RestoreFaults) : Prop :=
  faults.readPrevious = false ∧
    rollbackPermitted databaseSchema snapshot = true ∧
    faults.replace = none ∧ faults.writeCurrent = none

theorem meets_restorePrevious_iff {ended : Unit → Disk → Prop}
    {databaseSchema : Int} {faults : RestoreFaults}
    {snapshot : UpdateMetadata}
    (previousBinary : disk.previousBinary = some binary)
    (previousMetadata : disk.previousMetadata = some (.valid snapshot))
    (consistent : SnapshotConsistent library disk) :
    (restorePrevious databaseSchema faults).Meets
        (SnapshotConsistent library) ended (fun _ _ => True) disk ↔
      (restores databaseSchema snapshot faults →
        ended ()
          { disk with
            installed := some binary
            staged := none
            currentMetadata := some (.valid snapshot) }) := by
  obtain ⟨installed, staged, _, _, currentMetadata⟩ := disk
  cases previousBinary
  cases previousMetadata
  have replaced (file : Option MetadataFile) : SnapshotConsistent library
      ⟨some binary, none, some binary, some (.valid snapshot), file⟩ :=
    consistent
  simp only [restorePrevious, meets_bind_iff, meets_look_iff]
  cases reading : faults.readPrevious with
  | true => simp [restores, reading]
  | false =>
      cases permitted : rollbackPermitted databaseSchema snapshot with
      | false => simp [restores, permitted]
      | true =>
          simp only [Bool.false_eq_true, if_false, if_true, meets_bind_iff]
          rw [meets_atomicReplace_iff (fun _ _ => Iff.rfl)
            (fun _ => Iff.rfl) consistent]
          cases replacing : faults.replace with
          | some fault => simp [restores, replacing]
          | none =>
              cases writing : faults.writeCurrent <;>
                simp [restores, reading, permitted, replacing, writing,
                  writeCurrent, written, replaced]

/-- What a health check that fails leaves unchanged: the snapshot is restored,
and its metadata must be the old one. -/
def RestoresWhatWas (library : UpdateLibrary) (call : ApplyCall)
    (databaseSchema : Int) (binary : Bytes) (current : UpdateMetadata) :
    Prop :=
  call.options.skipHealth = false → call.faults.health ≠ none →
    restores (call.faults.schemaAfter.getD databaseSchema)
      (snapshotted library call binary current) call.faults.restore →
    snapshotted library call binary current = current

/-- A failure after which everything should be as before. -/
def ApplyFailure.undone : ApplyFailure → Prop
  | .failed _ | .restored => True
  | .rollbackBlocked _ _ => False

@[simp]
theorem ApplyFailure.undone_failed (error : AppError) :
    (ApplyFailure.failed error).undone :=
  trivial

theorem meets_verifyHealth_iff {databaseSchema : Int}
    (binaryOfStart : start.installed = some binary)
    (metadataOfStart : start.currentMetadata = some (.valid current))
    (previousBinary : disk.previousBinary = some binary)
    (previousMetadata : disk.previousMetadata =
      some (.valid (snapshotted library call binary current)))
    (consistent : SnapshotConsistent library disk) :
    (verifyHealth call databaseSchema).Meets (SnapshotConsistent library)
        (fun _ _ => True)
        (fun failure reached => failure.undone → Unchanged start reached)
        disk ↔
      RestoresWhatWas library call databaseSchema binary current := by
  unfold verifyHealth RestoresWhatWas
  cases skipped : call.options.skipHealth with
  | true => simp
  | false =>
      cases health : call.faults.health with
      | none => simp
      | some error =>
          simp only [Bool.false_eq_true, if_false, meets_bind_iff,
            meets_mapError_iff, ApplyFailure.undone, false_implies]
          rw [meets_restorePrevious_iff previousBinary previousMetadata
            consistent]
          simp [Unchanged, binaryOfStart, metadataOfStart]

end Stages

section Updates

variable (library) (call : ApplyCall) (start : Disk)

/-- What a rollback may install: what is installed already, or the binary of
the snapshot, which its metadata describes and the database schema admits. -/
def InstallsOwnRange (disk : Disk) : Prop :=
  ∀ yes databaseSchema faults,
    (runRollback yes databaseSchema faults).Meets
      (fun reached => reached.installed = disk.installed ∨
        ∃ binary metadata, reached.installed = some binary ∧
          disk.previousMetadata = some (.valid metadata) ∧
          describes library metadata binary = true ∧
          rollbackPermitted databaseSchema metadata = true)
      (fun _ _ => True) (fun _ _ => True) disk

/-- An update is all or nothing. -/
structure AllOrNothing : Prop where
  unchanged : ∀ failure, (runApply library call start).result =
      .error failure → failure.undone →
    Unchanged start (runApply library call start).last
  consistent : ∀ disk ∈ start :: (runApply library call start).passed,
    SnapshotConsistent library disk
  rollback : ∀ disk ∈ start :: (runApply library call start).passed,
    InstallsOwnRange library disk

/-- When an update is all or nothing: the snapshot describes itself at first
and after its binary has been copied, and what fails after that changes
nothing. -/
structure FailsHarmlessly (binary : Bytes) (current : UpdateMetadata) :
    Prop where
  started : SnapshotConsistent library start
  admittedUpdate : ∀ metadata databaseSchema,
    admitted library call = .ok (metadata, databaseSchema) →
    (∀ left previous,
      copied binary start.previousBinary call.faults.copyInstalled =
          some left →
        start.previousMetadata = some (.valid previous) →
        describes library previous left = true) ∧
    (snapshots call.faults → call.faults.replace = none →
      (∀ fault, call.faults.writeCurrent = some fault →
        call.files.artifact.getD [] = binary ∧ fault = .untouched) ∧
      (call.faults.writeCurrent = none →
        (¬ migrates call →
          call.files.artifact.getD [] = binary ∧ metadata = current) ∧
        (migrates call →
          RestoresWhatWas library call databaseSchema binary current)))

variable {library call start}

theorem installsOwnRange_of_consistent {disk : Disk}
    (consistent : SnapshotConsistent library disk) :
    InstallsOwnRange library disk := by
  intro yes databaseSchema faults
  unfold runRollback restorePrevious
  cases yes with
  | false => simp
  | true =>
      simp only [if_true, meets_bind_iff, meets_look_iff]
      split
      · simp
      rename_i binary previousBinary
      split
      · simp
      rename_i content previousMetadata
      split
      · simp
      split
      · simp
      rename_i metadata
      split
      · rename_i permitted
        have own : ∀ file : Option MetadataFile,
            some binary = disk.installed ∨
              ∃ other described, some binary = some other ∧
                disk.previousMetadata = some (.valid described) ∧
                describes library described other = true ∧
                rollbackPermitted databaseSchema described = true :=
          fun _ => .inr ⟨binary, metadata, rfl, previousMetadata,
            consistent binary metadata previousBinary previousMetadata,
            permitted⟩
        rcases faults.replace with _ | ⟨_ | fault | _ | _⟩ <;>
          cases faults.writeCurrent <;>
            simp_all [atomicReplace, writeCurrent]
      · simp

theorem allOrNothing_iff_meets :
    AllOrNothing library call start ↔
      SnapshotConsistent library start ∧
      (runApply library call).Meets (SnapshotConsistent library)
        (fun _ _ => True)
        (fun failure reached => failure.undone → Unchanged start reached)
        start := by
  constructor
  · intro ⟨unchanged, consistent, _⟩
    refine ⟨consistent start (by simp), fun reached member =>
      consistent reached (by simp [member]), ?_⟩
    cases result : (runApply library call start).result with
    | ok value => trivial
    | error failure => exact unchanged failure result
  · intro ⟨started, passes, ends⟩
    have consistent : ∀ disk ∈ start :: (runApply library call start).passed,
        SnapshotConsistent library disk := by
      intro disk member
      rcases List.mem_cons.mp member with rfl | member
      · exact started
      · exact passes disk member
    refine ⟨?_, consistent, fun disk member =>
      installsOwnRange_of_consistent (consistent disk member)⟩
    intro failure result
    rw [result] at ends
    exact ends

/-- For an update that starts with a binary and its metadata installed: it is
all or nothing exactly if its failures are harmless. -/
theorem update_is_all_or_nothing_iff {binary : Bytes}
    {current : UpdateMetadata} (installed : start.installed = some binary)
    (recorded : start.currentMetadata = some (.valid current))
    (described : describes library current binary = true) :
    AllOrNothing library call start ↔
      FailsHarmlessly library call start binary current := by
  rw [allOrNothing_iff_meets]
  have same : Unchanged start start := ⟨rfl, rfl⟩
  have after : SnapshotConsistent library
      (afterSnapshot library call start binary current) :=
    consistent_afterSnapshot described
  have kept : Unchanged start
      (afterSnapshot library call start binary current) :=
    ⟨rfl, rfl⟩
  simp only [runApply, meets_bind_iff, meets_mapError_iff, meets_given_iff,
    ApplyFailure.undone_failed, true_implies]
  rw [show FailsHarmlessly library call start binary current ↔
    SnapshotConsistent library start ∧ _ from
      ⟨fun harmless => ⟨harmless.started, harmless.admittedUpdate⟩,
        fun both => ⟨both.1, both.2⟩⟩]
  refine and_congr_right fun started => ?_
  cases admission : admitted library call with
  | error error => simp [same]
  | ok update =>
      obtain ⟨metadata, databaseSchema⟩ := update
      have only (property : UpdateMetadata → Int → Prop) :
          (∀ other schema, (.ok (metadata, databaseSchema) :
              Except AppError (UpdateMetadata × Int)) = .ok (other, schema) →
            property other schema) ↔
          property metadata databaseSchema :=
        ⟨fun every => every metadata databaseSchema rfl,
          fun holds other schema same => by cases same; exact holds⟩
      rw [only]
      refine (meets_snapshot_iff installed recorded described).trans
        (and_congr_right fun _ => imp_congr_right fun _ => ?_)
      simp only [meets_bind_iff, meets_mapError_iff,
        ApplyFailure.undone_failed, true_implies]
      rw [meets_install_iff kept.1 kept.2 installed recorded after]
      refine imp_congr_right fun _ => ?_
      cases writing : call.faults.writeCurrent with
      | some fault => simp
      | none =>
          simp only [reduceCtorEq, false_implies, implies_true, true_and,
            true_implies, meets_bind_iff, meets_mapError_iff,
            meets_migrate_iff, ApplyFailure.undone_failed]
          rw [and_comm]
          refine and_congr ?_ (imp_congr_right fun _ => ?_)
          · unfold migrates
            cases call.options.skipMigrate <;>
              cases call.faults.migrate <;>
                simp [Unchanged, installed, recorded]
          · exact meets_verifyHealth_iff installed recorded rfl rfl after

/-- Metadata of a package with a given digest. -/
def packageOf (version sha256 : String) : UpdateMetadata :=
  ⟨version, 10, 1, 10, sha256, "aarch64"⟩

/-- A library that accepts one package and digests small files to
themselves. -/
def digestingLibrary : UpdateLibrary :=
  { acceptingLibrary (packageOf "2.0.0" "01") with sha256 := id }

/-- A first update, on top of a binary that was installed with its metadata. -/
def firstInstallation : Disk :=
  ⟨some [7], none, none, none, some (.valid (packageOf "1.0.0" "07"))⟩

/-- An update in which the replacement or the migration fails. -/
def failingCall (replace : Option ReplaceFault) (migrate : Option AppError) :
    ApplyCall where
  options := ⟨true, true, false, true⟩
  files := acceptedFiles
  databaseSchema := .ok 9
  running := ⟨"1.0.0", 9, "aarch64"⟩
  faults := ⟨false, none, none, false, false, none, replace, none, migrate,
    none, none, ⟨false, none, none⟩⟩

theorem update_is_all_or_nothing_unreplaced :
    AllOrNothing digestingLibrary (failingCall (some .rename) none)
        firstInstallation ↔
      FailsHarmlessly digestingLibrary (failingCall (some .rename) none)
        firstInstallation [7] (packageOf "1.0.0" "07") :=
  update_is_all_or_nothing_iff rfl rfl (by decide)

/-- A migration that fails leaves the new binary and its metadata
installed. -/
theorem update_half_applied :
    firstInstallation.installed = some [7] ∧
    firstInstallation.currentMetadata =
      some (.valid (packageOf "1.0.0" "07")) ∧
    describes digestingLibrary (packageOf "1.0.0" "07") [7] = true ∧
    ¬ AllOrNothing digestingLibrary
      (failingCall none (some (dependency "migration failed")))
      firstInstallation := by
  refine ⟨rfl, rfl, by decide, fun whole => ?_⟩
  have unchanged := whole.unchanged
    (.failed (dependency "migration failed")) (by rfl) trivial
  have replaced : some ([1] : Bytes) = some [7] := unchanged.1
  revert replaced
  decide

end Updates

end Updates

end ZaloBot
