import ZaloBot.SignedUpdates

/-!
# Installing an update

`run_apply` and `run_rollback` on the files they change: the installed binary
with its staged copy, the snapshot of the previous binary, and the metadata of
both.  Which operation fails, and what it leaves behind, is decided by the
environment.
-/

namespace ZaloBot

namespace Updates

open FallibleSteps

/-- What a metadata file holds, as `serde_json` reads it. -/
inductive MetadataFile where
  | valid (metadata : UpdateMetadata)
  | invalid
deriving DecidableEq, Repr

/-- The files; `none` is an absent one. -/
structure Disk where
  installed : Option Bytes
  staged : Option Bytes
  previousBinary : Option Bytes
  previousMetadata : Option MetadataFile
  currentMetadata : Option MetadataFile
deriving DecidableEq, Repr

/-- A copy that fails leaves its target untouched, or leaves some bytes. -/
inductive CopyFault where
  | untouched
  | partly (bytes : Bytes)
deriving DecidableEq, Repr

/-- A write of metadata that fails leaves its file untouched or invalid. -/
inductive WriteFault where
  | untouched
  | partly
deriving DecidableEq, Repr

/-- Where `atomic_replace` fails. -/
inductive ReplaceFault where
  | directory
  | stage (fault : CopyFault)
  | mode
  | rename
deriving DecidableEq, Repr

/-- What fails while the previous binary is restored. -/
structure RestoreFaults where
  readPrevious : Bool
  replace : Option ReplaceFault
  writeCurrent : Option WriteFault
deriving DecidableEq, Repr

/-- What fails during `run_apply`; the schema after a failed health check is
`none` if it cannot be read. -/
structure ApplyFaults where
  createStateDir : Bool
  backup : Option AppError
  copyInstalled : Option CopyFault
  readCurrent : Bool
  hashInstalled : Bool
  writePrevious : Option WriteFault
  replace : Option ReplaceFault
  writeCurrent : Option WriteFault
  migrate : Option AppError
  health : Option AppError
  schemaAfter : Option Int
  restore : RestoreFaults
deriving DecidableEq, Repr

structure ApplyOptions where
  yes : Bool
  skipBackup : Bool
  skipMigrate : Bool
  skipHealth : Bool
deriving DecidableEq, Repr

/-- The running binary, for the metadata of a first snapshot. -/
structure RunningBinary where
  packageVersion : String
  schemaVersion : Int
  arch : String
deriving DecidableEq, Repr

/-- One call of `run_apply`. -/
structure ApplyCall where
  options : ApplyOptions
  files : UpdateFiles
  databaseSchema : Except AppError Int
  running : RunningBinary
  faults : ApplyFaults

/-- How `run_apply` ends in an error. -/
inductive ApplyFailure where
  | failed (error : AppError)
  | restored
  | rollbackBlocked (health rollback : AppError)
deriving DecidableEq, Repr

/-- The error that the operator sees. -/
def ApplyFailure.reported : ApplyFailure → AppError
  | .failed error => error
  | .restored =>
      ⟨.healthFailed,
        "health check failed after update; previous binary restored"⟩
  | .rollbackBlocked health rollback =>
      ⟨.healthFailed, "health check failed after update (" ++
        health.message ++ "); rollback blocked: " ++ rollback.message⟩

abbrev Installing (Value : Type) :=
  Fallible Disk AppError Value

section Files

def dependency (message : String) : AppError :=
  ⟨.dependency, message⟩

/-- A target after a copy. -/
def copied (source : Bytes) (target : Option Bytes) :
    Option CopyFault → Option Bytes
  | none => some source
  | some .untouched => target
  | some (.partly bytes) => some bytes

/-- A metadata file after a write. -/
def written (content : MetadataFile) (file : Option MetadataFile) :
    Option WriteFault → Option MetadataFile
  | none => some content
  | some .untouched => file
  | some .partly => some .invalid

/-- `write_json` to `current.json`. -/
def writeCurrent (metadata : UpdateMetadata) (fault : Option WriteFault) :
    Installing Unit :=
  .step (fun disk =>
    { disk with
      currentMetadata := written (.valid metadata) disk.currentMetadata fault })
    (fault.map fun _ => dependency "failed to write update metadata")

/-- `atomic_replace` of the installed binary. -/
def atomicReplace (source : Bytes) (fault : Option ReplaceFault) :
    Installing Unit := do
  .step id (if fault = some .directory then
    some (dependency "failed to create install directory") else none)
  let staging : Option CopyFault :=
    match fault with
    | some (.stage fault) => some fault
    | _ => none
  .step (fun disk =>
    { disk with staged := copied source disk.staged staging })
    (staging.map fun _ => dependency "failed to stage update binary")
  .step id (if fault = some .mode then
    some ⟨.permission, "failed to set update binary mode"⟩ else none)
  if fault = some .rename then
    .fail (dependency "failed to replace installed binary")
  else
    .step (fun disk =>
      { disk with installed := some source, staged := none }) none

/-- The snapshot of the binary: `fs::copy` to `previous-binary`. -/
def copyInstalled (binary : Bytes) (fault : Option CopyFault) :
    Installing Unit :=
  .step (fun disk =>
    { disk with previousBinary := copied binary disk.previousBinary fault })
    (fault.map fun _ => dependency "failed to snapshot current binary")

/-- The write of `previous.json`. -/
def writePrevious (content : MetadataFile) (fault : Option WriteFault)
    (message : String) : Installing Unit :=
  .step (fun disk =>
    { disk with
      previousMetadata := written content disk.previousMetadata fault })
    (fault.map fun _ => dependency message)

end Files

variable (library : UpdateLibrary)

section Restoring

/-- `restore_previous`. -/
def restorePrevious (databaseSchema : Int) (faults : RestoreFaults) :
    Installing Unit := do
  let disk ← .look
  match disk.previousBinary with
  | none =>
      .fail ⟨.conflict,
        "no previous binary is available; restore from backup"⟩
  | some binary =>
      match disk.previousMetadata with
      | none =>
          .fail ⟨.conflict, "previous metadata missing; restore from backup"⟩
      | some content =>
          if faults.readPrevious then
            .fail (dependency "failed to read previous update metadata")
          else
            match content with
            | .invalid =>
                .fail (dependency "previous update metadata is invalid")
            | .valid previous =>
                if rollbackPermitted databaseSchema previous then do
                  atomicReplace binary faults.replace
                  writeCurrent previous faults.writeCurrent
                else
                  .fail ⟨.conflict, "rollback blocked: database schema " ++
                    toString databaseSchema ++
                    " is outside previous binary range " ++
                    toString previous.minRuntimeSchema ++ "-" ++
                    toString previous.maxRuntimeSchema ++
                    "; restore from pre-update.dump"⟩

/-- `run_rollback`. -/
def runRollback (yes : Bool) (databaseSchema : Int) (faults : RestoreFaults) :
    Installing Unit :=
  if yes then
    restorePrevious databaseSchema faults
  else
    .fail ⟨.validation, "update rollback requires --yes"⟩

end Restoring

section Applying

variable (call : ApplyCall)

/-- The metadata of a snapshot without a readable `current.json`. -/
def snapshotMetadata (binary : Bytes) : UpdateMetadata where
  packageVersion := call.running.packageVersion
  schemaVersion := call.running.schemaVersion
  minRuntimeSchema := call.running.schemaVersion
  maxRuntimeSchema := call.running.schemaVersion
  sha256 := encodeHex (library.sha256 binary)
  arch := call.running.arch

/-- What is admitted before anything is changed: the metadata and the schema of
the database. -/
def admitted : Except AppError (UpdateMetadata × Int) := do
  if call.options.yes then
    let metadata ← verifyArtifact library call.files
    let databaseSchema ← call.databaseSchema
    checkSchemaPreflight databaseSchema metadata
    if call.faults.createStateDir then
      .error (dependency "failed to create update state directory")
    else if call.options.skipBackup then
      .ok (metadata, databaseSchema)
    else
      match call.faults.backup with
      | some error => .error error
      | none => .ok (metadata, databaseSchema)
  else
    .error ⟨.validation, "update apply requires --yes"⟩

/-- The snapshot of the installed binary with its metadata. -/
def snapshot : Installing Unit := do
  let disk ← .look
  match disk.installed with
  | none => pure ()
  | some binary => do
      copyInstalled binary call.faults.copyInstalled
      match disk.currentMetadata, call.faults.readCurrent with
      | some content, false =>
          writePrevious content call.faults.writePrevious
            "failed to snapshot current metadata"
      | _, _ =>
          if call.faults.hashInstalled then
            .fail (dependency "failed to hash installed binary")
          else
            writePrevious (.valid (snapshotMetadata library call binary))
              call.faults.writePrevious "failed to write update metadata"

/-- The artifact replaces the installed binary and its metadata. -/
def install (metadata : UpdateMetadata) : Installing Unit := do
  atomicReplace (call.files.artifact.getD []) call.faults.replace
  writeCurrent metadata call.faults.writeCurrent

/-- The migration. -/
def migrate : Installing Unit :=
  if call.options.skipMigrate then
    pure ()
  else
    match call.faults.migrate with
    | none => pure ()
    | some error => .fail error

/-- The health check, and what follows if it fails. -/
def verifyHealth (databaseSchema : Int) :
    Fallible Disk ApplyFailure Unit :=
  if call.options.skipHealth then
    pure ()
  else
    match call.faults.health with
    | none => pure ()
    | some error => do
        (restorePrevious (call.faults.schemaAfter.getD databaseSchema)
          call.faults.restore).mapError (.rollbackBlocked error)
        .fail .restored

/-- `run_apply`. -/
def runApply : Fallible Disk ApplyFailure Unit := do
  let (metadata, databaseSchema) ←
    (Fallible.given (admitted library call)).mapError .failed
  (snapshot library call).mapError .failed
  (install call metadata).mapError .failed
  (migrate call).mapError .failed
  verifyHealth call databaseSchema

end Applying

end Updates

end ZaloBot
