import Mathlib

/-!
# Tables with a primary key

A table is a list of rows no two of which have the same key.  The key
uniqueness is part of the type, so the operations below (insertion and
conditional update) can only build tables that keep it.  Proofs read a table
through `find`, the partial function from keys to rows that the uniqueness
makes well defined.
-/

namespace ZaloBot

variable {Row Key : Type*}

/-- Rows with pairwise different keys. -/
structure Table (key : Row → Key) where
  rows : List Row
  keysNodup : (rows.map key).Nodup

namespace Table

variable {key : Row → Key}

@[ext]
theorem ext {first second : Table key} (rowsEq : first.rows = second.rows) :
    first = second := by
  cases first
  cases second
  simp only at rowsEq
  subst rowsEq
  rfl

instance [DecidableEq Row] : DecidableEq (Table key) := fun first second =>
  decidable_of_iff (first.rows = second.rows)
    ⟨Table.ext, fun equal => congrArg Table.rows equal⟩

/-- The table without rows. -/
def empty : Table key :=
  ⟨[], by simp⟩

instance : Membership Row (Table key) :=
  ⟨fun table row => row ∈ table.rows⟩

theorem mem_def {table : Table key} {row : Row} :
    row ∈ table ↔ row ∈ table.rows :=
  Iff.rfl

instance {property : Row → Prop} [DecidablePred property]
    (table : Table key) : Decidable (∀ row ∈ table, property row) :=
  inferInstanceAs (Decidable (∀ row ∈ table.rows, property row))

theorem eq_of_key_eq {table : Table key} {first second : Row}
    (firstMem : first ∈ table) (secondMem : second ∈ table)
    (keyEq : key first = key second) : first = second :=
  List.inj_on_of_nodup_map table.keysNodup firstMem secondMem keyEq

/-- A change of rows that leaves their keys alone. -/
structure Setter (key : Row → Key) where
  apply : Row → Row
  keepsKey : ∀ row, key (apply row) = key row := by
    intro _
    rfl

/-- Conditional update: `set` replaces every row that `where_` selects. -/
def update (table : Table key) (where_ : Row → Bool) (set : Setter key) :
    Table key where
  rows := table.rows.map fun row => if where_ row then set.apply row else row
  keysNodup := by
    have sameKeys :
        (table.rows.map fun row =>
          if where_ row then set.apply row else row).map key =
          table.rows.map key := by
      rw [List.map_map]
      apply List.map_congr_left
      intro row _
      simp only [Function.comp_apply]
      split
      · exact set.keepsKey row
      · rfl
    rw [sameKeys]
    exact table.keysNodup

theorem mem_update {table : Table key} {where_ : Row → Bool}
    {set : Setter key} {row : Row} :
    row ∈ table.update where_ set ↔
      ∃ old ∈ table, (if where_ old then set.apply old else old) = row :=
  List.mem_map

/-- Selecting rows commutes with an update the selection cannot see. -/
theorem filter_update {table : Table key} {where_ : Row → Bool}
    {set : Setter key} {selects : Row → Bool}
    (unseen : ∀ row, selects (set.apply row) = selects row) :
    (table.update where_ set).rows.filter selects =
      (table.rows.filter selects).map fun row =>
        if where_ row then set.apply row else row := by
  simp only [update, List.filter_map]
  congr 1
  apply List.filter_congr
  intro row _
  simp only [Function.comp_apply]
  split
  · exact unseen row
  · rfl

section Lookup

variable [DecidableEq Key]

/-- The row with a given key. -/
def find (table : Table key) (wanted : Key) : Option Row :=
  table.rows.find? fun row => key row = wanted

theorem find_eq_some_iff {table : Table key} {wanted : Key} {row : Row} :
    table.find wanted = some row ↔ row ∈ table ∧ key row = wanted := by
  constructor
  · intro found
    exact ⟨List.mem_of_find?_eq_some found,
      by simpa using List.find?_some found⟩
  · rintro ⟨member, keyEq⟩
    cases found : table.find wanted with
    | none =>
        have absent := List.find?_eq_none.mp found row member
        simp [keyEq] at absent
    | some other =>
        have otherKey : key other = wanted := by
          simpa using List.find?_some found
        have otherMem : other ∈ table := List.mem_of_find?_eq_some found
        rw [eq_of_key_eq otherMem member (otherKey.trans keyEq.symm)]

theorem find_eq_none_iff {table : Table key} {wanted : Key} :
    table.find wanted = none ↔ ∀ row ∈ table, key row ≠ wanted := by
  simp [find, mem_def]

theorem mem_of_find {table : Table key} {wanted : Key} {row : Row}
    (found : table.find wanted = some row) : row ∈ table :=
  (find_eq_some_iff.mp found).1

theorem key_of_find {table : Table key} {wanted : Key} {row : Row}
    (found : table.find wanted = some row) : key row = wanted :=
  (find_eq_some_iff.mp found).2

theorem find_of_mem {table : Table key} {row : Row} (member : row ∈ table) :
    table.find (key row) = some row :=
  find_eq_some_iff.mpr ⟨member, rfl⟩

@[simp]
theorem find_empty (wanted : Key) :
    (empty : Table key).find wanted = none :=
  rfl

@[simp]
theorem find_update (table : Table key) (where_ : Row → Bool)
    (set : Setter key) (wanted : Key) :
    (table.update where_ set).find wanted =
      (table.find wanted).map fun row =>
        if where_ row then set.apply row else row := by
  have sameKey (row : Row) :
      key (if where_ row then set.apply row else row) = key row := by
    split
    · exact set.keepsKey row
    · rfl
  simp only [find, update, List.find?_map]
  congr 2
  funext row
  simp [sameKey]

/-- Conditional update of the row with a given key. -/
def modify (table : Table key) (wanted : Key) (where_ : Row → Bool)
    (set : Setter key) : Table key :=
  table.update (fun row => key row = wanted && where_ row) set

theorem find_modify_self (table : Table key) (wanted : Key)
    (where_ : Row → Bool) (set : Setter key) :
    (table.modify wanted where_ set).find wanted =
      (table.find wanted).map fun row =>
        if where_ row then set.apply row else row := by
  rw [modify, find_update]
  cases found : table.find wanted with
  | none => rfl
  | some row => simp [key_of_find found]

theorem find_modify_other {table : Table key} {wanted other : Key}
    {where_ : Row → Bool} {set : Setter key} (different : other ≠ wanted) :
    (table.modify wanted where_ set).find other = table.find other := by
  rw [modify, find_update]
  cases found : table.find other with
  | none => rfl
  | some row => simp [key_of_find found, different]

theorem mem_modify {table : Table key} {wanted : Key} {where_ : Row → Bool}
    {set : Setter key} {row : Row}
    (member : row ∈ table.modify wanted where_ set) :
    row ∈ table ∨ ∃ old ∈ table, key old = wanted ∧ where_ old = true ∧
      set.apply old = row := by
  obtain ⟨old, oldMem, oldSet⟩ := mem_update.mp member
  by_cases selected : (key old = wanted && where_ old) = true
  · rw [if_pos selected] at oldSet
    simp only [Bool.and_eq_true, decide_eq_true_eq] at selected
    exact Or.inr ⟨old, oldMem, selected.1, selected.2, oldSet⟩
  · rw [if_neg selected] at oldSet
    exact Or.inl (oldSet ▸ oldMem)

/-- Insertion fails when the key is taken. -/
def insert (table : Table key) (row : Row) : Option (Table key) :=
  if absent : key row ∈ table.rows.map key then
    none
  else
    some
      { rows := table.rows ++ [row]
        keysNodup := by
          rw [List.map_append, List.nodup_append]
          refine ⟨table.keysNodup, by simp, ?_⟩
          intro old oldMem new newMem equal
          simp only [List.map_cons, List.map_nil,
            List.mem_singleton] at newMem
          exact absent (newMem ▸ equal ▸ oldMem) }

theorem insert_eq_some_iff {table inserted : Table key} {row : Row} :
    table.insert row = some inserted ↔
      table.find (key row) = none ∧ inserted.rows = table.rows ++ [row] := by
  have taken : key row ∈ table.rows.map key ↔
      ¬ table.find (key row) = none := by
    simp [find_eq_none_iff, mem_def]
  unfold insert
  split
  · rename_i present
    simp [taken.mp present]
  · rename_i absent
    rw [taken, not_not] at absent
    simp only [Option.some.injEq, absent, true_and]
    constructor
    · intro equal
      rw [← equal]
    · intro rowsEq
      exact Table.ext rowsEq.symm

theorem insert_eq_none_iff {table : Table key} {row : Row} :
    table.insert row = none ↔ ∃ old ∈ table, key old = key row := by
  unfold insert
  split
  · rename_i present
    simpa [mem_def] using present
  · rename_i absent
    simpa [mem_def] using absent

theorem mem_insert {table inserted : Table key} {row other : Row}
    (insertion : table.insert row = some inserted) :
    other ∈ inserted ↔ other ∈ table ∨ other = row := by
  rw [mem_def, (insert_eq_some_iff.mp insertion).2]
  simp [mem_def]

theorem find_insert {table inserted : Table key} {row : Row}
    (insertion : table.insert row = some inserted) (wanted : Key) :
    inserted.find wanted =
      if key row = wanted then some row else table.find wanted := by
  obtain ⟨absent, rowsEq⟩ := insert_eq_some_iff.mp insertion
  split
  · rename_i same
    subst same
    exact find_eq_some_iff.mpr
      ⟨(mem_insert insertion).mpr (Or.inr rfl), rfl⟩
  · rename_i different
    simp [find, rowsEq, List.find?_append, different]

end Lookup

end Table

end ZaloBot
