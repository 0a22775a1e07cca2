import ZaloBot.ErrorClass
import ZaloBot.FallibleSteps
import ZaloBot.RustText
import ZaloBot.Transactions

/-!
# Signed updates

The verification of a signed update, the gates on the database schema, and the
file operations of `run_apply` and `run_rollback`.  Every file operation may
fail and may leave its file untouched or partly written; so may the backup, the
migration and the health check.  Signatures, digests, hex decoding and the JSON
of metadata are outside the repository; which of them succeed is a parameter.
A metadata file holds metadata, or something that is not valid metadata, such
as a part of its text.
-/

namespace ZaloBot

/-- `AppError`. -/
structure AppError where
  errorClass : ErrorClass
  message : String
deriving DecidableEq, Repr

namespace Updates

open FallibleSteps

abbrev Bytes := List UInt8

structure UpdateMetadata where
  packageVersion : String
  schemaVersion : Int
  minRuntimeSchema : Int
  maxRuntimeSchema : Int
  sha256 : String
  arch : String
deriving DecidableEq, Repr

/-- What verification uses of other packages; `Key` is a verifying key. -/
structure UpdateLibrary where
  Key : Type
  keyFromBytes : Bytes → Option Key
  verifies : Key → Bytes → Bytes → Bool
  parseMetadata : Bytes → Option UpdateMetadata
  sha256 : Bytes → Bytes
  decodeHex : String → Option Bytes
  decodeUtf8 : Bytes → Option String

/-- A directory of key files: absent, unreadable, or its files in order, of
which some may be unreadable. -/
inductive KeysDirectory where
  | absent
  | unreadable
  | files (texts : List (Option String))
deriving DecidableEq, Repr

/-- The files of an update; `none` is an unreadable one. -/
structure UpdateFiles where
  artifact : Option Bytes
  metadata : Option Bytes
  signature : Option Bytes
  publicKeys : List (Option String)
  publicKeysDirectory : KeysDirectory
deriving DecidableEq, Repr

section Verification

variable (library : UpdateLibrary)

def preflight (message : String) : AppError :=
  ⟨.preflightFailed, message⟩

/-- A value, or the error that its absence is. -/
def orError {Value : Type} (error : AppError) :
    Option Value → Except AppError Value
  | none => .error error
  | some value => .ok value

/-- `decode_hex`. -/
def decodeHex (text : String) : Except AppError Bytes :=
  orError (preflight "value is not valid hex")
    (library.decodeHex (RustText.trim text))

/-- `parse_public_key`. -/
def parsePublicKey (text : String) : Except AppError library.Key := do
  let bytes ← decodeHex library text
  if bytes.length = 32 then
    orError (preflight "update public key is invalid")
      (library.keyFromBytes bytes)
  else
    .error (preflight "update public key must be 32 bytes")

/-- `parse_signature`. -/
def parseSignature (bytes : Bytes) : Except AppError Bytes := do
  let text ← orError (preflight "update signature must be hex text")
    (library.decodeUtf8 bytes)
  let decoded ← decodeHex library (RustText.trim text)
  if decoded.length = 64 then
    .ok decoded
  else
    .error (preflight "update signature must be 64 bytes")

/-- `load_public_keys`. -/
def loadPublicKeys (files : UpdateFiles) :
    Except AppError (List library.Key) := do
  let listed ←
    match files.publicKeysDirectory with
    | .absent => .ok []
    | .unreadable =>
        .error (preflight "update public keys directory is unreadable")
    | .files texts => .ok texts
  (files.publicKeys ++ listed).mapM fun file => do
    let text ← orError (preflight "update public key file is unreadable") file
    parsePublicKey library (RustText.trim text)

/-- One digit of `hex::encode`. -/
def hexDigit (value : Nat) : Char :=
  Nat.digitChar (value % 16)

/-- `hex::encode`. -/
def encodeHex (bytes : Bytes) : String :=
  String.ofList (bytes.flatMap fun byte =>
    [hexDigit (byte.toNat / 16), hexDigit byte.toNat])

/-- `digest.eq_ignore_ascii_case(metadata.sha256.trim())`: the metadata
describes the binary. -/
def describes (metadata : UpdateMetadata) (binary : Bytes) : Bool :=
  RustText.toAsciiLowercase (encodeHex (library.sha256 binary)) =
    RustText.toAsciiLowercase (RustText.trim metadata.sha256)

/-- The checks of `verify_artifact` on signed metadata. -/
def checkMetadata (artifact : Bytes) (metadata : UpdateMetadata) :
    Except AppError UpdateMetadata :=
  if !describes library metadata artifact then
    .error (preflight "artifact checksum does not match metadata")
  else if metadata.maxRuntimeSchema < metadata.minRuntimeSchema ∨
      metadata.schemaVersion < metadata.minRuntimeSchema then
    .error (preflight "update metadata schema compatibility range is invalid")
  else
    .ok metadata

/-- `verify_artifact`. -/
def verifyArtifact (files : UpdateFiles) :
    Except AppError UpdateMetadata := do
  let metadataBytes ← orError
    (preflight "update metadata file is unreadable") files.metadata
  let signatureBytes ← orError
    (preflight "update signature file is unreadable") files.signature
  let artifactBytes ← orError (preflight "update artifact is unreadable")
    files.artifact
  let keys ← loadPublicKeys library files
  if keys.isEmpty then
    .error (preflight "no update public keys configured")
  else
    let signature ← parseSignature library signatureBytes
    if !keys.any (fun key =>
        library.verifies key metadataBytes signature) then
      .error (preflight "update signature verification failed")
    else
      let metadata ← orError (preflight "update metadata is not valid JSON")
        (library.parseMetadata metadataBytes)
      checkMetadata library artifactBytes metadata

/-- `rollback_permitted`. -/
def rollbackPermitted (databaseSchema : Int) (previous : UpdateMetadata) :
    Bool :=
  previous.minRuntimeSchema ≤ databaseSchema &&
    databaseSchema ≤ previous.maxRuntimeSchema

/-- `check_schema_preflight`. -/
def checkSchemaPreflight (databaseSchema : Int) (metadata : UpdateMetadata) :
    Except AppError Unit :=
  if databaseSchema < metadata.minRuntimeSchema then
    .error (preflight ("database schema " ++ toString databaseSchema ++
      " is older than binary min " ++ toString metadata.minRuntimeSchema))
  else if metadata.schemaVersion < databaseSchema then
    .error (preflight ("database schema " ++ toString databaseSchema ++
      " is newer than this package (" ++ toString metadata.schemaVersion ++
      ")"))
  else
    .ok ()

end Verification

section Gates

variable {library : UpdateLibrary}

theorem checkMetadata_eq_ok {artifact : Bytes}
    {metadata accepted : UpdateMetadata}
    (checked : checkMetadata library artifact metadata = .ok accepted) :
    metadata = accepted ∧ describes library metadata artifact = true ∧
      metadata.minRuntimeSchema ≤ metadata.maxRuntimeSchema ∧
      metadata.minRuntimeSchema ≤ metadata.schemaVersion := by
  unfold checkMetadata at checked
  split at checked
  · nomatch checked
  · rename_i described
    split at checked
    · nomatch checked
    · rename_i ranged
      exact ⟨Except.ok.inj checked, by simpa using described, by omega,
        by omega⟩

theorem eq_some_of_orError {Value : Type} {error : AppError}
    {option : Option Value} {value : Value}
    (present : orError error option = .ok value) : option = some value := by
  cases option with
  | none => nomatch present
  | some found => exact congrArg some (Except.ok.inj present)

/-- What an accepted artifact is known to satisfy. -/
theorem verifyArtifact_eq_ok {files : UpdateFiles} {metadata : UpdateMetadata}
    (verified : verifyArtifact library files = .ok metadata) :
    (∃ artifact, files.artifact = some artifact ∧
      describes library metadata artifact = true) ∧
    metadata.minRuntimeSchema ≤ metadata.maxRuntimeSchema ∧
      metadata.minRuntimeSchema ≤ metadata.schemaVersion := by
  unfold verifyArtifact at verified
  obtain ⟨metadataBytes, _, verified⟩ := except_bind_eq_ok.mp verified
  obtain ⟨signatureBytes, _, verified⟩ := except_bind_eq_ok.mp verified
  obtain ⟨artifact, found, verified⟩ := except_bind_eq_ok.mp verified
  obtain ⟨keys, _, verified⟩ := except_bind_eq_ok.mp verified
  split at verified
  · nomatch verified
  obtain ⟨signature, _, verified⟩ := except_bind_eq_ok.mp verified
  split at verified
  · nomatch verified
  obtain ⟨parsed, _, checked⟩ := except_bind_eq_ok.mp verified
  obtain ⟨rfl, described, range⟩ := checkMetadata_eq_ok checked
  exact ⟨⟨artifact, eq_some_of_orError found, described⟩, range⟩

/-- The preflight admits the schemas from the oldest one a package runs on to
the one it targets. -/
theorem checkSchemaPreflight_eq_ok_iff {databaseSchema : Int}
    {metadata : UpdateMetadata} :
    checkSchemaPreflight databaseSchema metadata = .ok () ↔
      metadata.minRuntimeSchema ≤ databaseSchema ∧
        databaseSchema ≤ metadata.schemaVersion := by
  unfold checkSchemaPreflight
  split
  · simp only [reduceCtorEq, false_iff]
    omega
  · split
    · simp only [reduceCtorEq, false_iff]
      omega
    · simp only [true_iff]
      omega

theorem rollbackPermitted_iff {databaseSchema : Int}
    {metadata : UpdateMetadata} :
    rollbackPermitted databaseSchema metadata = true ↔
      metadata.minRuntimeSchema ≤ databaseSchema ∧
        databaseSchema ≤ metadata.maxRuntimeSchema := by
  simp [rollbackPermitted]

/-- The two gates agree on every database exactly for the packages whose target
schema is not above the newest schema they run on. -/
theorem upgrade_gate_implies_rollback_gate_iff (files : UpdateFiles)
    (metadata : UpdateMetadata)
    (verified : verifyArtifact library files = .ok metadata) :
    (∀ databaseSchema,
      checkSchemaPreflight databaseSchema metadata = .ok () →
        rollbackPermitted databaseSchema metadata = true ∧
        (metadata.minRuntimeSchema ≤ metadata.schemaVersion ∧
          metadata.schemaVersion ≤ metadata.maxRuntimeSchema)) ↔
      metadata.schemaVersion ≤ metadata.maxRuntimeSchema := by
  have range := (verifyArtifact_eq_ok verified).2
  constructor
  · intro agree
    have admitted := checkSchemaPreflight_eq_ok_iff.mpr
      ⟨range.2, Int.le_refl metadata.schemaVersion⟩
    exact (agree metadata.schemaVersion admitted).2.2
  · intro bounded databaseSchema admitted
    obtain ⟨older, newer⟩ := checkSchemaPreflight_eq_ok_iff.mp admitted
    refine ⟨rollbackPermitted_iff.mpr ⟨older, ?_⟩, range.2, bounded⟩
    exact Int.le_trans newer bounded

/-- A package whose signature and digest are accepted. -/
def acceptedFiles : UpdateFiles :=
  ⟨some [1], some [2], some [3], [some "key"], .absent⟩

/-- A library that accepts the package under some metadata. -/
def acceptingLibrary (metadata : UpdateMetadata) : UpdateLibrary where
  Key := Unit
  keyFromBytes _ := some ()
  verifies _ _ _ := true
  parseMetadata _ := some metadata
  sha256 _ := [171]
  decodeHex text :=
    if text = "key" then some (List.replicate 32 0)
    else some (List.replicate 64 0)
  decodeUtf8 _ := some "signature"

/-- A package that targets the schema 10 and runs on 1 to `newest`. -/
def packageUpTo (newest : Int) : UpdateMetadata :=
  ⟨"1.0.0", 10, 1, newest, "AB", "aarch64"⟩

theorem upgrade_gate_implies_rollback_gate_bounded :
    rollbackPermitted 7 (packageUpTo 10) = true ∧
      (packageUpTo 10).minRuntimeSchema ≤ (packageUpTo 10).schemaVersion ∧
        (packageUpTo 10).schemaVersion ≤ (packageUpTo 10).maxRuntimeSchema :=
  (upgrade_gate_implies_rollback_gate_iff acceptedFiles (packageUpTo 10)
    (show verifyArtifact (acceptingLibrary (packageUpTo 10)) acceptedFiles =
      .ok (packageUpTo 10) by rfl)).mpr (by decide) 7 (by rfl)

/-- A package that targets the schema 10 but runs on 1 to 5 only is accepted,
and so is a database at 7. -/
theorem upgrade_gate_admits_what_rollback_forbids :
    verifyArtifact (acceptingLibrary (packageUpTo 5)) acceptedFiles =
      .ok (packageUpTo 5) ∧
    checkSchemaPreflight 7 (packageUpTo 5) = .ok () ∧
    ¬ (rollbackPermitted 7 (packageUpTo 5) = true ∧
      ((packageUpTo 5).minRuntimeSchema ≤ (packageUpTo 5).schemaVersion ∧
        (packageUpTo 5).schemaVersion ≤
          (packageUpTo 5).maxRuntimeSchema)) :=
  ⟨by rfl, by rfl, by decide⟩

end Gates

end Updates

end ZaloBot
