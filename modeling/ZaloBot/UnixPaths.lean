import Mathlib.Data.List.Basic
import ZaloBot.RustText

/-!
# Paths on Unix

The components of a path, and pushing a relative path onto another one.
-/

namespace ZaloBot

namespace UnixPath

open RustText

inductive Component where
  | rootDir
  | curDir
  | parentDir
  | normal (name : List Char)
deriving DecidableEq, Repr

/-- `path.split('/')`. -/
def splitSlash (path : List Char) : List (List Char) :=
  splitChars (· == '/') path

/-- A component behind the beginning of a path: empty components and single
dots are none. -/
def bodyComponent : List Char → Option Component
  | [] => none
  | ['.'] => none
  | ['.', '.'] => some .parentDir
  | name => some (.normal name)

/-- The root, or a single dot in front of a relative path. -/
def leadingComponent (path : List Char) : List Component :=
  if path.head? = some '/' then [.rootDir]
  else if (splitSlash path).head? = some ['.'] then [.curDir]
  else []

/-- `path.components()`. -/
def components (path : List Char) : List Component :=
  leadingComponent path ++ (splitSlash path).filterMap bodyComponent

/-- `path.push(piece)`. -/
def push (path piece : List Char) : List Char :=
  if piece.head? = some '/' then piece
  else if path.getLast?.any (· != '/') then path ++ '/' :: piece
  else path ++ piece

/-- `path.starts_with(base)`. -/
def startsWith (path base : List Char) : Bool :=
  (components base).isPrefixOf (components path)

/-- `path.parent()`, as components. -/
def parent (path : List Char) : Option (List Component) :=
  match (components path).getLast? with
  | none => none
  | some .rootDir => none
  | some _ => some (components path).dropLast

section Splitting

variable {path front back : List Char}

theorem splitSlash_ne_nil (path : List Char) : splitSlash path ≠ [] := by
  unfold splitSlash
  cases path with
  | nil => simp [splitChars]
  | cons char rest =>
      rw [splitChars]
      split
      · simp
      · split <;> simp

theorem splitSlash_slash (rest : List Char) :
    splitSlash ('/' :: rest) = [] :: splitSlash rest := by
  simp [splitSlash, splitChars]

theorem splitSlash_cons {char : Char} (isName : char ≠ '/')
    (rest : List Char) :
    ∃ piece pieces, splitSlash rest = piece :: pieces ∧
      splitSlash (char :: rest) = (char :: piece) :: pieces := by
  obtain ⟨piece, pieces, split⟩ :=
    List.exists_cons_of_ne_nil (splitSlash_ne_nil rest)
  refine ⟨piece, pieces, split, ?_⟩
  unfold splitSlash at split ⊢
  simp [splitChars, isName, split]

theorem splitSlash_append (front back : List Char) :
    splitSlash (front ++ '/' :: back) = splitSlash front ++ splitSlash back := by
  induction front with
  | nil =>
      rw [List.nil_append, splitSlash_slash]
      rfl
  | cons char rest induction =>
      rw [List.cons_append]
      by_cases isSlash : char = '/'
      · rw [isSlash, splitSlash_slash, splitSlash_slash, induction]
        rfl
      · obtain ⟨piece, pieces, split, isSplit⟩ := splitSlash_cons isSlash rest
        obtain ⟨other, others, splitBoth, isBoth⟩ :=
          splitSlash_cons isSlash (rest ++ '/' :: back)
        rw [induction, split] at splitBoth
        cases splitBoth
        rw [isBoth, isSplit]
        rfl

/-- The pieces of a path give it back. -/
theorem intercalate_splitSlash (path : List Char) :
    ['/'].intercalate (splitSlash path) = path := by
  induction path with
  | nil => rfl
  | cons char rest induction =>
      by_cases isSlash : char = '/'
      · rw [isSlash, splitSlash_slash]
        obtain ⟨piece, pieces, split⟩ :=
          List.exists_cons_of_ne_nil (splitSlash_ne_nil rest)
        rw [split, List.intercalate_cons_cons, ← split, induction]
        rfl
      · obtain ⟨piece, pieces, split, isSplit⟩ := splitSlash_cons isSlash rest
        rw [split] at induction
        rw [isSplit]
        cases pieces with
        | nil => simpa using induction
        | cons next more =>
            rw [List.intercalate_cons_cons] at induction ⊢
            rw [← induction]
            rfl

theorem no_slash_of_mem {piece : List Char}
    (member : piece ∈ splitSlash path) : '/' ∉ piece := by
  induction path generalizing piece with
  | nil => simp_all [splitSlash, splitChars]
  | cons char rest induction =>
      by_cases isSlash : char = '/'
      · rw [isSlash, splitSlash_slash] at member
        rcases List.mem_cons.mp member with rfl | inRest
        · exact List.not_mem_nil
        · exact induction inRest
      · obtain ⟨first, pieces, split, isSplit⟩ := splitSlash_cons isSlash rest
        rw [isSplit] at member
        rw [split] at induction
        rcases List.mem_cons.mp member with rfl | inPieces
        · rw [List.mem_cons, not_or]
          exact ⟨Ne.symm isSlash, induction List.mem_cons_self⟩
        · exact induction (List.mem_cons_of_mem _ inPieces)

end Splitting

section Components

variable {path : List Char} {names : List (List Char)}

/-- A name that is a component of its own. -/
structure IsNormal (name : List Char) : Prop where
  nonempty : name ≠ []
  notCurrent : name ≠ ['.']
  notParent : name ≠ ['.', '.']
  noSlash : '/' ∉ name

theorem IsNormal.bodyComponent {name : List Char} (isNormal : IsNormal name) :
    bodyComponent name = some (.normal name) := by
  unfold UnixPath.bodyComponent
  split
  · exact absurd rfl isNormal.nonempty
  · exact absurd rfl isNormal.notCurrent
  · exact absurd rfl isNormal.notParent
  · rfl

theorem filterMap_bodyComponent
    (areNormal : ∀ name ∈ names, IsNormal name) :
    names.filterMap bodyComponent = names.map .normal := by
  induction names with
  | nil => rfl
  | cons name names induction =>
      rw [List.filterMap_cons,
        (areNormal name List.mem_cons_self).bodyComponent, induction
          fun other member => areNormal other (List.mem_cons_of_mem _ member)]
      rfl

theorem leadingComponent_append {front : List Char} (nonempty : front ≠ [])
    (back : List Char)
    (sameHead : (splitSlash (front ++ back)).head? =
      (splitSlash front).head?) :
    leadingComponent (front ++ back) = leadingComponent front := by
  obtain ⟨first, rest, rfl⟩ := List.exists_cons_of_ne_nil nonempty
  unfold leadingComponent
  rw [sameHead]
  rfl

/-- Normal names that are pushed onto a path are components behind those of the
path. -/
theorem components_push (root relative : List Char)
    (areNormal : ∀ name ∈ splitSlash relative, IsNormal name) :
    components (push root relative) =
      components root ++ (splitSlash relative).map .normal := by
  have names := filterMap_bodyComponent areNormal
  obtain ⟨first, pieces, split⟩ :=
    List.exists_cons_of_ne_nil (splitSlash_ne_nil relative)
  have firstNormal := areNormal first (by simp [split])
  have notAbsolute : relative.head? ≠ some '/' := by
    intro absolute
    obtain ⟨rest, rfl⟩ := List.head?_eq_some_iff.mp absolute
    rw [splitSlash_slash] at split
    exact firstNormal.nonempty (List.cons.inj split).1.symm
  unfold push
  rw [if_neg notAbsolute]
  rcases root.eq_nil_or_concat with rfl | ⟨front, last, rfl⟩
  · have noLead : leadingComponent relative = [] := by
      unfold leadingComponent
      rw [if_neg notAbsolute, split, List.head?_cons, if_neg]
      exact fun same => firstNormal.notCurrent (Option.some.inj same)
    have noRoot : components [] = [] := by
      decide
    rw [if_neg (by simp), List.nil_append, noRoot, components, noLead, names]
  rw [List.concat_eq_append, List.getLast?_concat]
  have sameHead (back : List Char) :
      (splitSlash (front ++ '/' :: back)).head? =
        (splitSlash (front ++ ['/'])).head? := by
    rw [splitSlash_append, splitSlash_append, List.head?_append,
      List.head?_append]
    obtain ⟨piece, others, splitFront⟩ :=
      List.exists_cons_of_ne_nil (splitSlash_ne_nil front)
    rw [splitFront]
    rfl
  by_cases isSlash : last = '/'
  · subst isSlash
    rw [if_neg (by simp), components, leadingComponent_append (by simp),
      components]
    · rw [List.append_assoc, List.singleton_append, splitSlash_append,
        splitSlash_append, List.filterMap_append, List.filterMap_append, names]
      simp [splitSlash, splitChars, bodyComponent]
    · rw [List.append_assoc]
      exact sameHead relative
  · rw [if_pos (by simpa using isSlash), components,
      leadingComponent_append (by simp), components]
    · rw [splitSlash_append, List.filterMap_append, names, List.append_assoc]
    · rw [splitSlash_append, List.head?_append]
      obtain ⟨piece, others, splitFront⟩ :=
        List.exists_cons_of_ne_nil (splitSlash_ne_nil (front ++ [last]))
      rw [splitFront]
      rfl

/-- The names of a path are found again behind a root. -/
theorem map_normal_injective : Function.Injective
    (List.map Component.normal) :=
  List.map_injective_iff.mpr fun _ _ same => Component.normal.inj same

theorem eq_of_splitSlash {other : List Char}
    (same : splitSlash path = splitSlash other) : path = other := by
  rw [← intercalate_splitSlash path, same, intercalate_splitSlash]

end Components

end UnixPath

end ZaloBot
