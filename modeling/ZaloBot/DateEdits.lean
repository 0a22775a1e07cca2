import ZaloBot.CivilDates
import ZaloBot.WallClocks
import ZaloBot.ConversationDecisions

/-!
# The day an edited date lands on

`local_date_to_utc` takes the noon of the day that was asked for, or, where
the clock of the zone skips or repeats that noon, the noon of the current day.
The time zone database is given by the clocks of the zones it knows.
-/

namespace ZaloBot

namespace Conversation

open CivilDates

/-- A day in microseconds. -/
def dayLength : Int :=
  86400000000

/-- The day number of a date. -/
def NaiveDate.number (date : NaiveDate) : Int :=
  firstOfMonth (12 * date.year + (date.month - 1)) + (date.day - 1)

/-- The date of a day number. -/
def NaiveDate.ofNumber (day : Int) : NaiveDate :=
  ⟨monthOf day / 12, (monthOf day % 12).toNat + 1,
    (day - firstOfMonth (monthOf day)).toNat + 1⟩

/-- A date of the calendar. -/
def NaiveDate.IsValid (date : NaiveDate) : Prop :=
  1 ≤ date.month ∧ date.month ≤ 12 ∧ 1 ≤ date.day ∧
    date.number < firstOfMonth (12 * date.year + date.month)

instance (date : NaiveDate) : Decidable date.IsValid :=
  inferInstanceAs (Decidable (_ ∧ _))

/-- The zones that the database knows. -/
abbrev ZoneClocks :=
  String → Option WallClock

/-- The clock of universal time. -/
def utcClock : WallClock :=
  .ofSpans 0 []

/-- `timezone.parse().unwrap_or(chrono_tz::UTC)`. -/
def ZoneClocks.zone (clocks : ZoneClocks) (timezone : String) : WallClock :=
  (clocks timezone).getD utcClock

/-- `date_naive()` of an instant, by its day number. -/
def localDay (clock : WallClock) (instant : Timestamp) : Int :=
  clock.read instant / dayLength

/-- `date.and_time(noon)`. -/
def noonOf (date : NaiveDate) : Int :=
  date.number * dayLength + dayLength / 2

/-- The database as the decisions read it. -/
def ZoneClocks.library (clocks : ZoneClocks) : ZoneLibrary where
  known timezone := (clocks timezone).isSome
  localDate timezone instant :=
    .ofNumber (localDay (clocks.zone timezone) instant)
  localNoon timezone date := (clocks.zone timezone).shownAt (noonOf date)

theorem NaiveDate.number_ofNumber (day : Int) :
    (NaiveDate.ofNumber day).number = day := by
  have bounds := monthOf_bounds day
  have month : 12 * (monthOf day / 12) +
      ((((monthOf day % 12).toNat + 1 : Nat) : Int) - 1) = monthOf day := by
    omega
  simp only [number, ofNumber, month]
  omega

theorem NaiveDate.ofNumber_number {date : NaiveDate}
    (isValid : date.IsValid) : NaiveDate.ofNumber date.number = date := by
  obtain ⟨fromOne, toTwelve, fromFirst, within⟩ := isValid
  have month : monthOf date.number =
      12 * date.year + ((date.month : Int) - 1) := by
    refine monthOf_eq ?_ ?_
    · unfold number
      omega
    · have next : 12 * date.year + ((date.month : Int) - 1) + 1 =
          12 * date.year + date.month := by
        omega
      rwa [next]
  have day : date.number -
      firstOfMonth (12 * date.year + ((date.month : Int) - 1)) =
        date.day - 1 := by
    unfold number
    omega
  rw [ofNumber, month, day]
  cases date
  simp only [NaiveDate.mk.injEq] at *
  omega

theorem localDay_of_noon {clock : WallClock} {date : NaiveDate}
    {instant : Timestamp} (shown : clock.read instant = noonOf date) :
    localDay clock instant = date.number := by
  rw [localDay, shown, noonOf, dayLength]
  omega

theorem single_eq_some_iff {instants : List Timestamp}
    {instant : Timestamp} :
    single instants = some instant ↔ instants = [instant] := by
  rcases instants with _ | ⟨first, _ | ⟨second, rest⟩⟩ <;> simp [single]

/-- The clock shows the noon of the date exactly once. -/
def NoonIsUnique (clock : WallClock) (date : NaiveDate) : Prop :=
  ∃! instant, clock.read instant = noonOf date

section Landing

variable (clocks : ZoneClocks) (timezone : String) {date : NaiveDate}
  (now : Timestamp)

theorem single_localNoon_iff {instant : Timestamp} :
    single (clocks.library.localNoon timezone date) = some instant ↔
      (clocks.zone timezone).read instant = noonOf date ∧
        ∀ other, (clocks.zone timezone).read other = noonOf date →
          other = instant := by
  rw [single_eq_some_iff]
  exact WallClock.shownAt_eq_singleton_iff

/-- The date that an anchored noon falls on. -/
theorem localDate_of_single {instant : Timestamp} (isValid : date.IsValid)
    (anchored : single (clocks.library.localNoon timezone date) =
      some instant) :
    clocks.library.localDate timezone instant = date := by
  have shown := ((single_localNoon_iff clocks timezone).mp anchored).1
  simp only [ZoneClocks.library, localDay_of_noon shown]
  exact NaiveDate.ofNumber_number isValid

theorem single_localNoon_eq_none_iff :
    single (clocks.library.localNoon timezone date) = none ↔
      ¬ NoonIsUnique (clocks.zone timezone) date := by
  rw [Option.eq_none_iff_forall_ne_some]
  simp only [ne_eq, single_localNoon_iff, NoonIsUnique, ExistsUnique,
    not_exists]

/-- Where the date is moved, it is moved to the current day. -/
theorem localDateToUtc_of_repeated
    (notUnique : ¬ NoonIsUnique (clocks.zone timezone) date) :
    localDateToUtc clocks.library date timezone now =
      single (clocks.library.localNoon timezone
        (clocks.library.localDate timezone now)) := by
  rw [localDateToUtc, (single_localNoon_eq_none_iff clocks timezone).mpr
    notUnique]

theorem ofNumber_localDate (instant : Timestamp) :
    NaiveDate.ofNumber
        (clocks.library.localDate timezone instant).number =
      clocks.library.localDate timezone instant := by
  simp only [ZoneClocks.library, NaiveDate.number_ofNumber]

/-- What an edited date is stored and shown as is the date asked for, unless
the edit is refused. -/
def LandsOn (date : NaiveDate) : Prop :=
  ∀ occurredAt,
    localDateToUtc clocks.library date timezone now = some occurredAt →
      clocks.library.localDate timezone occurredAt = date ∧
        formatDateVn clocks.library occurredAt timezone = date.formatVn

/-- A date edit lands on the date asked for exactly when the clock of the zone
shows that day's noon once, or does not show the current day's noon once, or
the date asked for is the current one. -/
theorem date_edits_land_iff (isValid : date.IsValid) :
    LandsOn clocks timezone now date ↔
      NoonIsUnique (clocks.zone timezone) date ∨
        ¬ NoonIsUnique (clocks.zone timezone)
            (clocks.library.localDate timezone now) ∨
          clocks.library.localDate timezone now = date := by
  have shows {occurredAt : Timestamp}
      (same : clocks.library.localDate timezone occurredAt = date) :
      formatDateVn clocks.library occurredAt timezone = date.formatVn := by
    rw [formatDateVn, same]
  by_cases isUnique : NoonIsUnique (clocks.zone timezone) date
  · simp only [isUnique, true_or, iff_true]
    intro occurredAt lands
    obtain ⟨noon, anchored⟩ : ∃ noon, single
        (clocks.library.localNoon timezone date) = some noon := by
      rw [← Option.ne_none_iff_exists']
      exact fun none => (single_localNoon_eq_none_iff clocks timezone).mp none
        isUnique
    have taken : noon = occurredAt := by
      rw [localDateToUtc, anchored] at lands
      exact Option.some.inj lands
    subst taken
    have same := localDate_of_single clocks timezone isValid anchored
    exact ⟨same, shows same⟩
  · simp only [isUnique, false_or]
    rw [LandsOn, localDateToUtc_of_repeated clocks timezone now isUnique]
    by_cases current : NoonIsUnique (clocks.zone timezone)
        (clocks.library.localDate timezone now)
    · obtain ⟨noon, anchored⟩ : ∃ noon, single
          (clocks.library.localNoon timezone
            (clocks.library.localDate timezone now)) = some noon := by
        rw [← Option.ne_none_iff_exists']
        exact fun none =>
          (single_localNoon_eq_none_iff clocks timezone).mp none current
      have shown := ((single_localNoon_iff clocks timezone).mp anchored).1
      have today : clocks.library.localDate timezone noon =
          clocks.library.localDate timezone now := by
        rw [← ofNumber_localDate clocks timezone now]
        simp only [ZoneClocks.library, localDay_of_noon shown]
      simp only [anchored, Option.some.injEq, forall_eq', today, current,
        not_true_eq_false, false_or, and_iff_left_iff_imp]
      intro same
      exact shows (today.trans same)
    · have refused := (single_localNoon_eq_none_iff clocks timezone).mpr
        current
      simp [refused, current]

end Landing

section Samples

/-- Samoa in 2011 and 2012: it skipped the 30th of December 2011. -/
def apiaClock : WallClock :=
  .ofSpans (-39600000000)
    [(1316872800000000, -36000000000), (1325239200000000, 50400000000),
      (1333202400000000, 46800000000)]

def apiaOnly : ZoneClocks := fun name =>
  if name = "Pacific/Apia" then some apiaClock else none

/-- The 15th of January 2012 at 14:00 local time. -/
def apiaNow : Timestamp :=
  1326585600000000

theorem date_edits_land_on_new_year :
    LandsOn apiaOnly "Pacific/Apia" apiaNow ⟨2012, 1, 1⟩ :=
  (date_edits_land_iff apiaOnly "Pacific/Apia" apiaNow (by decide)).mpr
    (.inl ⟨1325368800000000, by decide, fun other shown =>
      (WallClock.shownAt_eq_singleton_iff.mp
        (by decide : apiaClock.shownAt (noonOf ⟨2012, 1, 1⟩) =
          [1325368800000000])).2 other shown⟩)

/-- The day that Samoa skipped is stored as the current day. -/
theorem skipped_day_moves_to_today :
    ¬ LandsOn apiaOnly "Pacific/Apia" apiaNow ⟨2011, 12, 30⟩ := by
  intro lands
  have moved := (lands 1326578400000000 (by decide)).1
  exact absurd moved (by decide)

end Samples

end Conversation

end ZaloBot
