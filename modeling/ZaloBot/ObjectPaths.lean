import Mathlib.Logic.Function.Basic
import ZaloBot.ReceiptTypes
import ZaloBot.UnixPaths

/-!
# The filesystem store of receipt originals

Object keys are checked as texts and as paths, and resolved below a root.  The
calls of the operating system work on a tree of directories and files; they may
fail, and a failed write leaves some of the bytes behind.
-/

namespace ZaloBot

namespace ObjectPaths

open RustText UnixPath

/-- `validate_object_key`. -/
def validateObjectKey (key : String) : Except StoreError Unit :=
  if isBlank key then
    .error (.validation "object key must not be empty")
  else if RustText.startsWith key "/" then
    .error (.validation "object key must not be absolute")
  else if key.toList.contains '\\' || key.toList.contains '\x00' ||
      contains key ".." then
    .error (.validation "object key is invalid")
  else
    .ok ()

/-- The loop of `key_to_relative_path`. -/
def pushComponents (path : List Char) :
    List (List Char) → Except StoreError (List Char)
  | [] => .ok path
  | component :: others =>
      if component.isEmpty || component = ['.'] || component = ['.', '.'] then
        .error (.validation "object key is invalid")
      else if component.contains '\\' || component.contains '\x00' then
        .error (.validation "object key is invalid")
      else
        pushComponents (push path component) others

/-- `key_to_relative_path`. -/
def keyToRelativePath (key : String) : Except StoreError (List Char) := do
  let path ← pushComponents [] (splitSlash key.toList)
  if path.isEmpty then
    .error (.validation "object key must not be empty")
  else
    .ok path

/-- `resolve_path`. -/
def resolvePath (root : List Char) (key : String) :
    Except StoreError (List Char) := do
  validateObjectKey key
  let relative ← keyToRelativePath key
  let path := push root relative
  if UnixPath.startsWith path root then
    .ok path
  else
    .error (.validation "object key escapes storage root")

section Resolving

variable {root path : List Char} {key other : String}

theorem pushComponents_eq_ok {relative : List Char}
    {pieces : List (List Char)} (noSlash : ∀ piece ∈ pieces, '/' ∉ piece)
    (pushed : pushComponents path pieces = .ok relative) :
    (∀ piece ∈ pieces, IsNormal piece) ∧
      (path = [] → relative = ['/'].intercalate pieces) ∧
      (path.getLast?.any (· != '/') = true →
        relative = ['/'].intercalate (path :: pieces)) := by
  induction pieces generalizing path with
  | nil =>
      cases pushed
      exact ⟨fun _ none => absurd none List.not_mem_nil, id, fun _ => by simp⟩
  | cons piece others induction =>
      rw [pushComponents] at pushed
      split at pushed
      · cases pushed
      rename_i isName
      split at pushed
      · cases pushed
      simp only [Bool.or_eq_true, List.isEmpty_iff, decide_eq_true_eq,
        not_or] at isName
      have pieceSlash := noSlash piece List.mem_cons_self
      have isNormal : IsNormal piece :=
        ⟨isName.1.1, isName.1.2, isName.2, pieceSlash⟩
      obtain ⟨areNormal, _, continues⟩ := induction
        (fun other member => noSlash other (List.mem_cons_of_mem _ member))
        pushed
      have notAbsolute : piece.head? ≠ some '/' := fun absolute =>
        pieceSlash (List.mem_of_head? absolute)
      have endsInName (front : List Char) :
          (front ++ piece).getLast?.any (· != '/') = true := by
        obtain ⟨earlier, last, rfl⟩ :
            ∃ earlier last, piece = earlier ++ [last] := by
          rcases piece.eq_nil_or_concat with rfl | ⟨earlier, last, rfl⟩
          · exact absurd rfl isNormal.nonempty
          · exact ⟨earlier, last, List.concat_eq_append ..⟩
        have notSlash : last ≠ '/' := by
          rintro rfl
          simp at pieceSlash
        rw [← List.append_assoc, List.getLast?_concat]
        simpa using notSlash
      refine ⟨List.forall_mem_cons.mpr ⟨isNormal, areNormal⟩, ?_, ?_⟩
      · rintro rfl
        have first : push [] piece = piece := by
          simp [push, notAbsolute]
        rw [first] at continues
        exact continues (endsInName [])
      · intro isName
        have next : push path piece = path ++ '/' :: piece := by
          rw [push, if_neg notAbsolute, if_pos isName]
        rw [next] at continues
        rw [continues (by simpa using endsInName (path ++ ['/']))]
        cases others with
        | nil => simp [List.intercalate_cons_cons]
        | cons later others => simp [List.intercalate_cons_cons]

theorem keyToRelativePath_eq_ok {relative : List Char}
    (converted : keyToRelativePath key = .ok relative) :
    relative = key.toList ∧
      ∀ name ∈ splitSlash key.toList, IsNormal name := by
  unfold keyToRelativePath at converted
  cases pushed : pushComponents [] (splitSlash key.toList) with
  | error error =>
      rw [pushed] at converted
      cases converted
  | ok found =>
      rw [pushed] at converted
      obtain ⟨areNormal, joined, _⟩ :=
        pushComponents_eq_ok (fun _ => no_slash_of_mem) pushed
      simp only [bind, Except.bind] at converted
      split at converted
      · cases converted
      · cases converted
        exact ⟨(joined rfl).trans (intercalate_splitSlash key.toList),
          areNormal⟩

/-- What an accepted key resolves to. -/
theorem resolvePath_eq_ok (resolved : resolvePath root key = .ok path) :
    (∀ name ∈ splitSlash key.toList, IsNormal name) ∧
      components path =
        components root ++ (splitSlash key.toList).map .normal := by
  unfold resolvePath at resolved
  cases validated : validateObjectKey key with
  | error error =>
      rw [validated] at resolved
      cases resolved
  | ok _ =>
      cases converted : keyToRelativePath key with
      | error error =>
          rw [validated, converted] at resolved
          cases resolved
      | ok relative =>
          rw [validated, converted] at resolved
          obtain ⟨rfl, areNormal⟩ := keyToRelativePath_eq_ok converted
          simp only [bind, Except.bind] at resolved
          split at resolved
          · cases resolved
            exact ⟨areNormal, components_push root key.toList areNormal⟩
          · cases resolved

/-- Distinct keys do not resolve to the same path. -/
theorem key_eq_of_components {otherPath : List Char}
    (resolved : resolvePath root key = .ok path)
    (otherResolved : resolvePath root other = .ok otherPath)
    (same : components path = components otherPath) : key = other := by
  rw [(resolvePath_eq_ok resolved).2, (resolvePath_eq_ok otherResolved).2,
    List.append_cancel_left_eq] at same
  exact String.toList_inj.mp
    (eq_of_splitSlash (map_normal_injective same))

end Resolving

section Files

inductive Node where
  | directory
  | file (bytes : List UInt8)
deriving DecidableEq, Repr

/-- What the file system holds, by the components of paths. -/
abbrev Tree := List Component → Option Node

/-- How the calls of one operation go: how many directories can be made,
whether a file can be opened, after how many bytes a write fails if it does,
and whether renaming, reading and removing succeed. -/
structure FileCalls where
  directories : Nat
  opens : Bool
  failsAfter : Option Nat
  renames : Bool
  reads : Bool
  removes : Bool

inductive IoError where
  | notFound
  | other
deriving DecidableEq, Repr

/-- `fs::create_dir_all`, from the outermost directory inwards. -/
def createDirAll (tree : Tree) :
    Nat → List (List Component) → Tree × Bool
  | _, [] => (tree, true)
  | limit, place :: others =>
      match tree place with
      | some .directory => createDirAll tree limit others
      | some (.file _) => (tree, false)
      | none =>
          match limit with
          | 0 => (tree, false)
          | limit + 1 =>
              createDirAll (Function.update tree place (some .directory))
                limit others

/-- `fs::write`. -/
def write (calls : FileCalls) (tree : Tree) (place : List Component)
    (bytes : List UInt8) : Tree × Bool :=
  if tree place = some .directory || !calls.opens then
    (tree, false)
  else
    match calls.failsAfter with
    | none => (Function.update tree place (some (.file bytes)), true)
    | some count =>
        (Function.update tree place (some (.file (bytes.take count))), false)

/-- `fs::rename` of a file. -/
def rename (calls : FileCalls) (tree : Tree) (source target : List Component) :
    Tree × Bool :=
  match tree source with
  | some (.file bytes) =>
      if tree target = some .directory || !calls.renames then
        (tree, false)
      else
        (Function.update (Function.update tree source none) target
          (some (.file bytes)), true)
  | _ => (tree, false)

/-- What is found at a place: nothing is behind a file. -/
def entry (tree : Tree) (place : List Component) : Except IoError Node :=
  if place.inits.dropLast.any fun above =>
      (tree above).any fun node => node != .directory then
    .error .other
  else
    match tree place with
    | none => .error .notFound
    | some node => .ok node

/-- `fs::remove_file`. -/
def removeFile (calls : FileCalls) (tree : Tree) (place : List Component) :
    Tree × Except IoError Unit :=
  match entry tree place with
  | .error error => (tree, .error error)
  | .ok .directory => (tree, .error .other)
  | .ok (.file _) =>
      if calls.removes then (Function.update tree place none, .ok ())
      else (tree, .error .other)

/-- `fs::read`. -/
def read (calls : FileCalls) (tree : Tree) (place : List Component) :
    Except IoError (List UInt8) :=
  match entry tree place with
  | .error error => .error error
  | .ok .directory => .error .other
  | .ok (.file bytes) => if calls.reads then .ok bytes else .error .other

end Files

section Operations

variable (calls : FileCalls) (root : List Char)

/-- The name of the temporary file. -/
def tempName (uuid : Uuid) : List Char :=
  '.' :: uuid.text.toList ++ ".tmp".toList

/-- `put`, with the UUID that it draws. -/
def put (uuid : Uuid) (key : String) (bytes : List UInt8) (tree : Tree) :
    Tree × Except StoreError Unit :=
  match resolvePath root key with
  | .error error => (tree, .error error)
  | .ok path =>
      match parent path with
      | none =>
          (tree, .error (.validation
            "object key must include a path component"))
      | some above =>
          let (tree, made) :=
            createDirAll tree calls.directories above.inits.tail
          if made then
            let temporary := above ++ [.normal (tempName uuid)]
            let (tree, written) := write calls tree temporary bytes
            if written then
              let (tree, renamed) :=
                rename calls tree temporary (components path)
              if renamed then
                (tree, .ok ())
              else
                ((removeFile calls tree temporary).1,
                  .error (.dependency "failed to finalize object write"))
            else
              (tree, .error (.dependency "failed to write object bytes"))
          else
            (tree, .error (.dependency
              "failed to create object parent directory"))

/-- `get`. -/
def get (key : String) (tree : Tree) :
    Except StoreError (Option (List UInt8)) :=
  match resolvePath root key with
  | .error error => .error error
  | .ok path =>
      match read calls tree (components path) with
      | .ok bytes => .ok (some bytes)
      | .error .notFound => .ok none
      | .error .other => .error (.dependency "failed to read object")

/-- `delete`. -/
def delete (key : String) (tree : Tree) : Tree × Except StoreError Unit :=
  match resolvePath root key with
  | .error error => (tree, .error error)
  | .ok path =>
      match removeFile calls tree (components path) with
      | (tree, .ok _) => (tree, .ok ())
      | (tree, .error .notFound) => (tree, .ok ())
      | (tree, .error .other) =>
          (tree, .error (.dependency "failed to delete object"))

end Operations

section Separation

variable {calls : FileCalls} {tree : Tree} {place other : List Component}

/-- The bytes of the file at a place. -/
def bytesAt (tree : Tree) (place : List Component) : Option (List UInt8) :=
  match tree place with
  | some (.file bytes) => some bytes
  | _ => none

/-- The bytes of a key. -/
def objectAt (root : List Char) (tree : Tree) (key : String) :
    Option (List UInt8) :=
  match resolvePath root key with
  | .ok path => bytesAt tree (components path)
  | .error _ => none

theorem bytesAt_update {node : Option Node} (different : other ≠ place) :
    bytesAt (Function.update tree place node) other = bytesAt tree other := by
  rw [bytesAt, bytesAt, Function.update_of_ne different]

/-- New directories take no bytes. -/
theorem bytesAt_createDirAll (limit : Nat)
    (places : List (List Component)) :
    bytesAt (createDirAll tree limit places).1 other = bytesAt tree other := by
  induction places generalizing tree limit with
  | nil => rfl
  | cons place others induction =>
      rw [createDirAll.eq_def]
      simp only
      split
      · exact induction limit
      · rfl
      · rename_i absent
        split
        · rfl
        · rw [induction]
          by_cases same : other = place
          · rw [bytesAt, bytesAt, same, Function.update_self, absent]
          · exact bytesAt_update same

theorem bytesAt_write {bytes : List UInt8} (different : other ≠ place) :
    bytesAt (write calls tree place bytes).1 other = bytesAt tree other := by
  unfold write
  split
  · rfl
  · split
    · exact bytesAt_update different
    · exact bytesAt_update different

theorem bytesAt_rename {source : List Component}
    (notSource : other ≠ source) (notTarget : other ≠ place) :
    bytesAt (rename calls tree source place).1 other =
      bytesAt tree other := by
  unfold rename
  split
  · split
    · rfl
    · rw [bytesAt_update notTarget, bytesAt_update notSource]
  · rfl

theorem bytesAt_removeFile (different : other ≠ place) :
    bytesAt (removeFile calls tree place).1 other = bytesAt tree other := by
  unfold removeFile
  split
  · rfl
  · rfl
  · split
    · exact bytesAt_update different
    · rfl

variable {root : List Char} {key otherKey : String} {uuid : Uuid}
variable {bytes : List UInt8}

theorem objectAt_of_resolved {path : List Char}
    (resolved : resolvePath root key = .ok path) :
    objectAt root tree key = bytesAt tree (components path) := by
  rw [objectAt, resolved]

theorem bytesAt_put {path : List Char}
    (resolved : resolvePath root key = .ok path)
    (different : other ≠ components path)
    (notTemporary : other.getLast? ≠ some (.normal (tempName uuid))) :
    bytesAt (put calls root uuid key bytes tree).1 other =
      bytesAt tree other := by
  have notTemp (above : List Component) :
      other ≠ above ++ [.normal (tempName uuid)] := by
    rintro rfl
    simp at notTemporary
  unfold put
  rw [resolved]
  simp only
  split
  · rfl
  · rename_i above _
    split
    · split
      · split
        · rw [bytesAt_rename (notTemp above) different,
            bytesAt_write (notTemp above), bytesAt_createDirAll]
        · rw [bytesAt_removeFile (notTemp above),
            bytesAt_rename (notTemp above) different,
            bytesAt_write (notTemp above), bytesAt_createDirAll]
      · rw [bytesAt_write (notTemp above), bytesAt_createDirAll]
    · exact bytesAt_createDirAll _ _

theorem bytesAt_delete {path : List Char}
    (resolved : resolvePath root key = .ok path)
    (different : other ≠ components path) :
    bytesAt (delete calls root key tree).1 other = bytesAt tree other := by
  have removed : bytesAt (removeFile calls tree (components path)).1 other =
      bytesAt tree other := bytesAt_removeFile different
  unfold delete
  rw [resolved]
  simp only
  split
  all_goals
    rename_i isRemoved
    rw [isRemoved] at removed
    exact removed

theorem get_reads_own (found : get calls root key tree = .ok (some bytes)) :
    objectAt root tree key = some bytes := by
  unfold get at found
  cases resolved : resolvePath root key with
  | error error =>
      rw [resolved] at found
      cases found
  | ok path =>
      rw [resolved] at found
      rw [objectAt_of_resolved resolved]
      simp only at found
      split at found
      · rename_i isRead
        cases found
        unfold read entry at isRead
        split at isRead
        · cases isRead
        · cases isRead
        · rename_i stored present
          split at present
          · cases present
          · split at present
            · cases present
            · rename_i node isNode
              cases present
              split at isRead
              · cases isRead
                rw [bytesAt, isNode]
              · cases isRead
      · cases found
      · cases found

/-- The last name of an accepted key is the last component of its path. -/
theorem getLast?_components {path : List Char}
    (resolved : resolvePath root key = .ok path) :
    (components path).getLast? =
      (splitSlash key.toList).getLast?.map .normal := by
  obtain ⟨_, isPath⟩ := resolvePath_eq_ok resolved
  obtain ⟨first, others, split⟩ :=
    List.exists_cons_of_ne_nil (splitSlash_ne_nil key.toList)
  rw [isPath, split, List.getLast?_append_of_ne_nil _ (by simp),
    List.getLast?_map]

/-- What an operation on one key may touch. -/
theorem objectAt_of_frame {after : Tree}
    (frame : ∀ otherPath, resolvePath root otherKey = .ok otherPath →
      bytesAt after (components otherPath) =
        bytesAt tree (components otherPath)) :
    objectAt root after otherKey = objectAt root tree otherKey := by
  unfold objectAt
  cases resolved : resolvePath root otherKey with
  | error error => rfl
  | ok otherPath => exact frame otherPath resolved

/-- Accepted keys resolve to normal names below the root, distinct ones to
distinct paths, and operations on one key leave the bytes of every other key
alone, whichever calls fail. -/
theorem object_keys_are_separate (root : List Char) (key : String) :
    (∀ path, resolvePath root key = .ok path →
      ∃ names, names ≠ [] ∧ (∀ name ∈ names, IsNormal name) ∧
        components path = components root ++ names.map .normal) ∧
    (∀ calls tree bytes, get calls root key tree = .ok (some bytes) →
      objectAt root tree key = some bytes) ∧
    ∀ other, other ≠ key →
      (∀ path otherPath, resolvePath root key = .ok path →
        resolvePath root other = .ok otherPath →
          components path ≠ components otherPath) ∧
      (∀ calls tree,
        objectAt root (delete calls root key tree).1 other =
          objectAt root tree other) ∧
      ∀ calls uuid bytes tree,
        (splitSlash other.toList).getLast? ≠ some (tempName uuid) →
          objectAt root (put calls root uuid key bytes tree).1 other =
            objectAt root tree other := by
  refine ⟨fun path resolved => ?_, fun _ _ _ => get_reads_own,
    fun other different => ⟨fun path otherPath resolved otherResolved same =>
      different (key_eq_of_components resolved otherResolved same).symm,
      fun calls tree => ?_, fun calls uuid bytes tree notTemporary => ?_⟩⟩
  · obtain ⟨areNormal, isPath⟩ := resolvePath_eq_ok resolved
    exact ⟨splitSlash key.toList, splitSlash_ne_nil _, areNormal, isPath⟩
  · refine objectAt_of_frame fun otherPath otherResolved => ?_
    cases resolved : resolvePath root key with
    | error error => simp [delete, resolved]
    | ok path =>
        refine bytesAt_delete resolved fun same => different ?_
        exact key_eq_of_components otherResolved resolved same
  · refine objectAt_of_frame fun otherPath otherResolved => ?_
    cases resolved : resolvePath root key with
    | error error => simp [put, resolved]
    | ok path =>
        refine bytesAt_put resolved (fun same => different ?_) ?_
        · exact key_eq_of_components otherResolved resolved same
        · rw [getLast?_components otherResolved]
          intro isTemporary
          obtain ⟨name, isLast, same⟩ := Option.map_eq_some_iff.mp isTemporary
          cases same
          exact notTemporary isLast

/-- The store of originals and that of exports under one root. -/
theorem object_keys_are_separate_here :
    components "data/objects/receipts/a.jpg".toList ≠
      components "data/objects/exports/a.csv".toList :=
  ((object_keys_are_separate "data/objects".toList "receipts/a.jpg").2.2
    "exports/a.csv" (by decide)).1 _ _ rfl rfl

example : resolvePath "data/objects".toList "receipts/../../a" =
    .error (.validation "object key is invalid") := by
  decide

end Separation

end ObjectPaths

end ZaloBot
