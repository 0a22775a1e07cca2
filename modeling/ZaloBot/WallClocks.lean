import Mathlib

/-!
# Clocks that run ahead of universal time by a changing offset

A wall clock adds an offset to every instant.  The offset may change at any
instant, so that the clock skips some times and shows others more than once;
the clock comes with the instants at which it shows a time, in ascending
order.
-/

namespace ZaloBot

/-- A wall clock and its inverse. -/
structure WallClock where
  offset : Int → Int
  shownAt : Int → List Int
  ascending : ∀ time, (shownAt time).Pairwise (· < ·)
  mem_shownAt : ∀ time instant,
    instant ∈ shownAt time ↔ instant + offset instant = time

namespace WallClock

section Readings

variable (clock : WallClock) (range : Set Int)

/-- The time that the clock shows at an instant. -/
def read (instant : Int) : Int :=
  instant + clock.offset instant

/-- The clock shows the time at some instant of the range. -/
def Shows (time : Int) : Prop :=
  ∃ instant ∈ range, clock.read instant = time

/-- The first instant of the range at which the clock shows the time. -/
def FirstShows (time instant : Int) : Prop :=
  instant ∈ range ∧ clock.read instant = time ∧
    ∀ other ∈ range, clock.read other = time → instant ≤ other

/-- The instants of the range at which the clock shows the time. -/
def shownWithin [DecidablePred (· ∈ range)] (time : Int) : List Int :=
  (clock.shownAt time).filter (· ∈ range)

/-- A clock without disorder: a time that it shows is first shown before every
later one, so that no skipped time is shown afterwards, and it is never set
back by more than a given length. -/
structure Steady (most : Int) : Prop where
  inOrder : ∀ time later first second, time < later →
    clock.FirstShows range time first → clock.FirstShows range later second →
      first < second
  setBack : ∀ earlier ∈ range, ∀ later ∈ range, earlier ≤ later →
    clock.read earlier ≤ clock.read later + most

variable {clock : WallClock} {range : Set Int} {time instant other : Int}

theorem mem_shownAt_iff :
    instant ∈ clock.shownAt time ↔ clock.read instant = time :=
  clock.mem_shownAt time instant

theorem shownAt_eq_singleton_iff :
    clock.shownAt time = [instant] ↔
      clock.read instant = time ∧
        ∀ other, clock.read other = time → other = instant := by
  constructor
  · intro only
    have mem (other : Int) : other = instant ↔ clock.read other = time := by
      rw [← mem_shownAt_iff, only, List.mem_singleton]
    exact ⟨(mem instant).mp rfl, fun other shown => (mem other).mpr shown⟩
  · rintro ⟨shown, unique⟩
    have ascending := clock.ascending time
    match shape : clock.shownAt time with
    | [] =>
        have here := mem_shownAt_iff.mpr shown
        rw [shape] at here
        contradiction
    | [first] =>
        have same := unique first (mem_shownAt_iff.mp (by rw [shape]; simp))
        rw [same]
    | first :: second :: rest =>
        have sameFirst :=
          unique first (mem_shownAt_iff.mp (by rw [shape]; simp))
        have sameSecond :=
          unique second (mem_shownAt_iff.mp (by rw [shape]; simp))
        rw [shape, List.pairwise_cons] at ascending
        have := ascending.1 second (by simp)
        omega

theorem FirstShows.shows (first : clock.FirstShows range time instant) :
    clock.Shows range time :=
  ⟨instant, first.1, first.2.1⟩

theorem FirstShows.unique (first : clock.FirstShows range time instant)
    (second : clock.FirstShows range time other) : instant = other :=
  le_antisymm (first.2.2 other second.1 second.2.1)
    (second.2.2 instant first.1 first.2.1)

section Within

variable [DecidablePred (· ∈ range)]

theorem mem_shownWithin_iff :
    instant ∈ clock.shownWithin range time ↔
      instant ∈ range ∧ clock.read instant = time := by
  rw [shownWithin, List.mem_filter, mem_shownAt_iff, decide_eq_true_eq]
  exact and_comm

theorem shownWithin_eq_nil_iff :
    clock.shownWithin range time = [] ↔ ¬ clock.Shows range time := by
  rw [List.eq_nil_iff_forall_not_mem]
  simp only [mem_shownWithin_iff, Shows, not_exists]

theorem head?_shownWithin_eq_some_iff :
    (clock.shownWithin range time).head? = some instant ↔
      clock.FirstShows range time instant := by
  have ascending : (clock.shownWithin range time).Pairwise (· < ·) :=
    (clock.ascending time).filter _
  have mem (other : Int) : other ∈ clock.shownWithin range time ↔
      other ∈ range ∧ clock.read other = time :=
    mem_shownWithin_iff
  generalize clock.shownWithin range time = shown at ascending mem
  cases shown with
  | nil =>
      simp only [List.head?_nil, reduceCtorEq, false_iff]
      rintro ⟨inRange, reads, -⟩
      exact absurd ((mem instant).mpr ⟨inRange, reads⟩) (by simp)
  | cons first rest =>
      rw [List.pairwise_cons] at ascending
      have here := (mem first).mp (by simp)
      simp only [List.head?_cons, Option.some.injEq]
      constructor
      · rintro rfl
        refine ⟨here.1, here.2, fun other inRange reads => ?_⟩
        rcases List.mem_cons.mp ((mem other).mpr ⟨inRange, reads⟩) with
          same | behind
        · exact le_of_eq same.symm
        · exact le_of_lt (ascending.1 other behind)
      · rintro ⟨inRange, reads, least⟩
        rcases List.mem_cons.mp ((mem instant).mpr ⟨inRange, reads⟩) with
          same | behind
        · exact same.symm
        · have before := ascending.1 instant behind
          have atMost := least first here.1 here.2
          omega

end Within

/-- A time that is shown has a first instant that shows it. -/
theorem Shows.exists_first (shows : clock.Shows range time) :
    ∃ first, clock.FirstShows range time first := by
  classical
  cases shape : clock.shownWithin range time with
  | nil => exact absurd shows (shownWithin_eq_nil_iff.mp shape)
  | cons first rest =>
      exact ⟨first, head?_shownWithin_eq_some_iff.mp (by rw [shape]; rfl)⟩

/-- Before the first instant that shows a time, a clock without disorder shows
earlier times. -/
theorem Steady.read_lt {most : Int} (steady : clock.Steady range most)
    (first : clock.FirstShows range time instant) (inRange : other ∈ range)
    (before : other < instant) : clock.read other < time := by
  by_contra notEarlier
  obtain ⟨shown, shownFirst⟩ :=
    Shows.exists_first ⟨other, inRange, rfl⟩
  have shownBefore := shownFirst.2.2 other inRange rfl
  rcases lt_or_eq_of_le (not_lt.mp notEarlier) with later | same
  · have inOrder := steady.inOrder _ _ _ _ later first shownFirst
    omega
  · have atMost := first.2.2 other inRange same.symm
    omega

/-- A clock that only moves forward has no disorder. -/
theorem steady_of_strictMono (forward : StrictMono clock.read) {most : Int}
    (nonnegative : 0 ≤ most) : clock.Steady range most where
  inOrder time later first second inOrder firstShown secondShown := by
    rw [← firstShown.2.1, ← secondShown.2.1] at inOrder
    exact forward.lt_iff_lt.mp inOrder
  setBack earlier _ later _ inOrder := by
    have := forward.monotone inOrder
    omega

end Readings

section Spans

/-- The offset of a clock that starts with one offset and takes another from
each of the listed instants on. -/
def spanOffset (initial : Int) (spans : List (Int × Int)) (instant : Int) :
    Int :=
  spans.foldl
    (fun offset span => if span.1 ≤ instant then span.2 else offset) initial

theorem spanOffset_mem (initial : Int) (spans : List (Int × Int))
    (instant : Int) :
    spanOffset initial spans instant ∈ initial :: spans.map Prod.snd := by
  induction spans generalizing initial with
  | nil => simp [spanOffset]
  | cons span spans induction =>
      have later := induction (if span.1 ≤ instant then span.2 else initial)
      rw [spanOffset, List.foldl_cons]
      rw [spanOffset] at later
      rcases List.mem_cons.mp later with here | inside
      · rw [here]
        split <;> simp
      · simp [inside]

/-- The instants at which such a clock shows a time. -/
def spanShownAt (initial : Int) (spans : List (Int × Int)) (time : Int) :
    List Int :=
  ((((initial :: spans.map Prod.snd).map (time - ·)).filter fun instant =>
    instant + spanOffset initial spans instant = time).dedup).insertionSort
      (· ≤ ·)

/-- The clock of a table of offsets. -/
def ofSpans (initial : Int) (spans : List (Int × Int)) : WallClock where
  offset := spanOffset initial spans
  shownAt := spanShownAt initial spans
  ascending time := by
    have sorted := List.pairwise_insertionSort (· ≤ ·)
      ((((initial :: spans.map Prod.snd).map (time - ·)).filter fun instant =>
        instant + spanOffset initial spans instant = time).dedup)
    have distinct : (spanShownAt initial spans time).Nodup :=
      (List.perm_insertionSort (· ≤ ·) _).nodup_iff.mpr (List.nodup_dedup _)
    exact (sorted.and distinct).imp fun both => lt_of_le_of_ne both.1 both.2
  mem_shownAt time instant := by
    rw [spanShownAt, List.mem_insertionSort, List.mem_dedup, List.mem_filter]
    simp only [decide_eq_true_eq, and_iff_right_iff_imp]
    intro shown
    refine List.mem_map.mpr ⟨spanOffset initial spans instant,
      spanOffset_mem initial spans instant, ?_⟩
    omega

end Spans

end WallClock

end ZaloBot
