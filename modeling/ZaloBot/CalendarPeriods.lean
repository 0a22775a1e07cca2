import ZaloBot.ScheduleInstants
import ZaloBot.SpendingTotals

/-!
# Spending periods and the local calendar

The period of a command or of a scheduled summary is computed from the starts
of local days.  It holds the expenses of its calendar days exactly if the clock
of the zone has no fold over the midnights at which those days begin and end,
and no gap over them but one of an hour, or of whole minutes that the
resolution of midnight finds.
-/

namespace ZaloBot

namespace Schedules

open CivilDates
open Conversation (NaiveDate ZoneClocks localDay dayLength)

/-- Periods of commands and of scheduled summaries. -/
inductive PeriodKind where
  | interactive
  | scheduled
deriving DecidableEq, Repr

/-- `interactive_period` or `scheduled_period`. -/
def spendingPeriod (clocks : ZoneClocks) (kind : PeriodKind)
    (frequency : Frequency) (instant : Timestamp) (timezone : String) :
    Calculation (Period × String) :=
  match kind with
  | .interactive => interactivePeriod clocks frequency instant timezone
  | .scheduled => scheduledPeriod clocks frequency instant timezone

/-- The days of a period, up to its own end and up to the end of the whole
day, week or month. -/
structure CalendarDays where
  first : Int
  next : Int
  whole : Int
deriving DecidableEq, Repr

/-- The days of the period of a day. -/
def calendarDays : PeriodKind → Frequency → Int → CalendarDays
  | .interactive, .daily, day => ⟨day, day + 1, day + 1⟩
  | .interactive, .weekly, day => ⟨mondayOf day, day + 1, mondayOf day + 7⟩
  | .interactive, .monthly, day =>
      ⟨firstOfMonth (monthOf day), day + 1, firstOfMonth (monthOf day + 1)⟩
  | .scheduled, .daily, day => ⟨day - 1, day, day⟩
  | .scheduled, .weekly, day => ⟨mondayOf day - 7, mondayOf day, mondayOf day⟩
  | .scheduled, .monthly, day =>
      ⟨firstOfMonth (monthOf day - 1), firstOfMonth (monthOf day),
        firstOfMonth (monthOf day)⟩

/-- The local date of the instant is one of the days. -/
def CalendarDays.Covers (days : CalendarDays) (clock : WallClock)
    (instant : Timestamp) : Prop :=
  days.first ≤ localDay clock instant ∧ localDay clock instant < days.next

/-- The instant at which a day is taken to start: the first at which the clock
shows its midnight, 01:00 if it skips that midnight, or the next whole minute
up to 03:00 if it skips both. -/
def OpensAt (clock : WallClock) (day : Int) (instant : Timestamp) : Prop :=
  IsDay day ∧ ResolvesTo clock (day * dayLength) instant

section Computing

variable {clocks : ZoneClocks} {clock : WallClock} {timezone : String}
variable {now start stop other : Timestamp} {period : Period}
variable {day : Int}

theorem OpensAt.unique (opens : OpensAt clock day start)
    (second : OpensAt clock day other) : start = other :=
  opens.2.unique second.2

theorem OpensAt.localDay_eq (opens : OpensAt clock day start) :
    localDay clock start = day :=
  opens.2.localDay_eq

/-- The start of a day, in whichever words a panic names it. -/
theorem opensAt_iff {message : String} (isDay : IsDay day) :
    startOf message (.ofNumber day) clock = .ok start ↔
      OpensAt clock day start :=
  (startOf_eq_ok_iff isDay).trans (and_iff_right isDay).symm

/-- A period between the starts of days, cut off where the whole ends. -/
def IsComputed (clock : WallClock) (today : Int) (days : CalendarDays)
    (period : Period) : Prop :=
  IsDay today ∧ ∃ start stop whole, OpensAt clock days.first start ∧
    OpensAt clock days.next stop ∧ OpensAt clock days.whole whole ∧
    period = ⟨start, min stop whole⟩

theorem isComputed_whole {today first next : Int} :
    IsComputed clock today ⟨first, next, next⟩ period ↔
      IsDay today ∧ ∃ start stop, OpensAt clock first start ∧
        OpensAt clock next stop ∧ period = ⟨start, stop⟩ := by
  refine and_congr_right fun _ => ?_
  constructor
  · rintro ⟨start, stop, whole, opens, closes, ends, rfl⟩
    rw [ends.unique closes, min_self]
    exact ⟨start, stop, opens, closes, rfl⟩
  · rintro ⟨start, stop, opens, closes, rfl⟩
    exact ⟨start, stop, stop, opens, closes, closes, by rw [min_self]⟩

/-- A period that is cut off where the whole ends. -/
theorem cut_eq_min (stop whole : Timestamp) :
    (if stop < whole then stop else whole) = min stop whole := by
  rw [min_def]
  split <;> split <;> first | rfl | (simp only [Timestamp] at *; omega)

theorem today_eq_ok_iff : today now clock = .ok period ↔
    IsComputed clock (localDay clock now)
      (calendarDays .interactive .daily (localDay clock now)) period := by
  simp only [today, bind_eq_ok_iff, pure_eq_ok_iff, dateNaive_eq_ok_iff,
    addDays_eq_ok_iff, number_localDate, and_assoc, exists_and_left,
    exists_eq_left', calendarDays, isComputed_whole]
  refine and_congr_right fun isToday => ?_
  constructor
  · rintro ⟨start, opens, isNext, stop, closes, rfl⟩
    exact ⟨start, (opensAt_iff isToday).mp opens, stop,
      (opensAt_iff isNext).mp closes, rfl⟩
  · rintro ⟨start, opens, stop, closes, rfl⟩
    exact ⟨start, (opensAt_iff isToday).mpr opens, closes.1, stop,
      (opensAt_iff closes.1).mpr closes, rfl⟩

theorem yesterday_eq_ok_iff : yesterday now clock = .ok period ↔
    IsComputed clock (localDay clock now)
      (calendarDays .scheduled .daily (localDay clock now)) period := by
  simp only [yesterday, bind_eq_ok_iff, pure_eq_ok_iff, dateNaive_eq_ok_iff,
    subDays_eq_ok_iff, number_localDate, and_assoc, exists_and_left,
    exists_eq_left', calendarDays, isComputed_whole]
  refine and_congr_right fun isToday => ?_
  constructor
  · rintro ⟨isPrevious, start, opens, stop, closes, rfl⟩
    exact ⟨start, (opensAt_iff isPrevious).mp opens, stop,
      (opensAt_iff isToday).mp closes, rfl⟩
  · rintro ⟨start, opens, stop, closes, rfl⟩
    exact ⟨opens.1, start, (opensAt_iff opens.1).mpr opens, stop,
      (opensAt_iff isToday).mpr closes, rfl⟩

theorem weekStart_eq_ok_iff : weekStart now clock = .ok start ↔
    IsDay (localDay clock now) ∧
      OpensAt clock (mondayOf (localDay clock now)) start := by
  simp only [weekStart, bind_eq_ok_iff, dateNaive_eq_ok_iff,
    subDays_eq_ok_iff, numDaysFromMonday, number_localDate, and_assoc,
    exists_and_left, exists_eq_left', ← mondayOf.eq_1]
  refine and_congr_right fun _ => ?_
  constructor
  · rintro ⟨isMonday, opens⟩
    exact (opensAt_iff isMonday).mp opens
  · intro opens
    exact ⟨opens.1, (opensAt_iff opens.1).mpr opens⟩

theorem thisWeek_eq_ok_iff : thisWeek now clock = .ok period ↔
    IsComputed clock (localDay clock now)
      (calendarDays .interactive .weekly (localDay clock now)) period := by
  simp only [thisWeek, bind_eq_ok_iff, pure_eq_ok_iff, weekStart_eq_ok_iff,
    dateNaive_eq_ok_iff, addDays_eq_ok_iff, number_localDate, and_assoc,
    exists_and_left, exists_eq_left', cut_eq_min]
  refine and_congr_right fun isToday => ?_
  constructor
  · rintro ⟨start, opens, -, isWhole, whole, ends, -, isNext, stop, closes,
      rfl⟩
    rw [opens.localDay_eq] at isWhole ends
    exact ⟨start, stop, whole, opens, (opensAt_iff isNext).mp closes,
      (opensAt_iff isWhole).mp ends, rfl⟩
  · rintro ⟨start, stop, whole, opens, closes, ends, rfl⟩
    refine ⟨start, opens, ?_, ?_, whole, ?_, isToday, closes.1, stop,
      (opensAt_iff closes.1).mpr closes, rfl⟩ <;> rw [opens.localDay_eq]
    · exact opens.1
    · exact ends.1
    · exact (opensAt_iff ends.1).mpr ends

theorem lastWeek_eq_ok_iff : lastWeek now clock = .ok period ↔
    IsComputed clock (localDay clock now)
      (calendarDays .scheduled .weekly (localDay clock now)) period := by
  simp only [lastWeek, bind_eq_ok_iff, pure_eq_ok_iff, weekStart_eq_ok_iff,
    dateNaive_eq_ok_iff, subDays_eq_ok_iff, number_localDate, and_assoc,
    exists_and_left, exists_eq_left', calendarDays, isComputed_whole]
  refine and_congr_right fun _ => ?_
  constructor
  · rintro ⟨stop, closes, -, isFirst, start, opens, rfl⟩
    rw [closes.localDay_eq] at isFirst opens
    exact ⟨start, (opensAt_iff isFirst).mp opens, stop, closes, rfl⟩
  · rintro ⟨start, opens, stop, closes, rfl⟩
    refine ⟨stop, closes, ?_, ?_, start, ?_, rfl⟩ <;> rw [closes.localDay_eq]
    · exact closes.1
    · exact opens.1
    · exact (opensAt_iff opens.1).mpr opens

theorem monthStart_eq_ok_iff : monthStart now clock = .ok start ↔
    IsDay (localDay clock now) ∧
      OpensAt clock (firstOfMonth (monthOf (localDay clock now))) start := by
  have isValid : (localDate clock now).IsValid := isValid_ofNumber _
  have first (date : NaiveDate) := @fromYmdOpt_first date
    (localDate clock now).year _ isValid.1 isValid.2.1
  have month := monthNumber_localDate clock now
  rw [monthNumber] at month
  simp only [month] at first
  simp only [monthStart, bind_eq_ok_iff, dateNaive_eq_ok_iff,
    expectSome_eq_ok_iff, and_assoc, exists_and_left, exists_eq_left']
  refine and_congr_right fun _ => ?_
  constructor
  · rintro ⟨date, isFirst, opens⟩
    obtain ⟨isDay, rfl⟩ := (first date).mp isFirst
    exact (opensAt_iff isDay).mp opens
  · intro opens
    exact ⟨_, (first _).mpr ⟨opens.1, rfl⟩, (opensAt_iff opens.1).mpr opens⟩

section Months

variable {month : Int} {next : NaiveDate}
variable (opens : OpensAt clock (firstOfMonth month) start)
include opens

theorem monthNumber_start : monthNumber (localDate clock start) = month := by
  rw [monthNumber_localDate, opens.localDay_eq, monthOf_firstOfMonth]

theorem nextMonth_start :
    nextMonth (localDate clock start).year (localDate clock start).month =
      some next ↔ IsDay (firstOfMonth (month + 1)) ∧
        .ofNumber (firstOfMonth (month + 1)) = next := by
  rw [← monthNumber_start opens]
  exact nextMonth_eq_some_iff (isValid_ofNumber _)

theorem previousMonth_start :
    previousMonth (localDate clock start).year
      (localDate clock start).month = some next ↔
        IsDay (firstOfMonth (month - 1)) ∧
          .ofNumber (firstOfMonth (month - 1)) = next := by
  rw [← monthNumber_start opens]
  exact previousMonth_eq_some_iff (isValid_ofNumber _)

end Months

theorem thisMonth_eq_ok_iff : thisMonth now clock = .ok period ↔
    IsComputed clock (localDay clock now)
      (calendarDays .interactive .monthly (localDay clock now)) period := by
  simp only [thisMonth, bind_eq_ok_iff, pure_eq_ok_iff, monthStart_eq_ok_iff,
    expectSome_eq_ok_iff, dateNaive_eq_ok_iff, addDays_eq_ok_iff,
    number_localDate, and_assoc, exists_and_left, exists_eq_left', cut_eq_min]
  refine and_congr_right fun isToday => ?_
  constructor
  · rintro ⟨start, opens, next, isNext, whole, ends, -, isTomorrow, stop,
      closes, rfl⟩
    obtain ⟨isWhole, rfl⟩ := (nextMonth_start opens).mp isNext
    exact ⟨start, stop, whole, opens, (opensAt_iff isTomorrow).mp closes,
      (opensAt_iff isWhole).mp ends, rfl⟩
  · rintro ⟨start, stop, whole, opens, closes, ends, rfl⟩
    exact ⟨start, opens, _, (nextMonth_start opens).mpr ⟨ends.1, rfl⟩, whole,
      (opensAt_iff ends.1).mpr ends, isToday, closes.1, stop,
      (opensAt_iff closes.1).mpr closes, rfl⟩

theorem lastMonth_eq_ok_iff : lastMonth now clock = .ok period ↔
    IsComputed clock (localDay clock now)
      (calendarDays .scheduled .monthly (localDay clock now)) period := by
  simp only [lastMonth, bind_eq_ok_iff, pure_eq_ok_iff, monthStart_eq_ok_iff,
    expectSome_eq_ok_iff, and_assoc, exists_and_left, calendarDays,
    isComputed_whole]
  refine and_congr_right fun _ => ?_
  constructor
  · rintro ⟨stop, closes, previous, isPrevious, start, opens, rfl⟩
    obtain ⟨isFirst, rfl⟩ := (previousMonth_start closes).mp isPrevious
    exact ⟨start, (opensAt_iff isFirst).mp opens, stop, closes, rfl⟩
  · rintro ⟨start, opens, stop, closes, rfl⟩
    exact ⟨stop, closes, _, (previousMonth_start closes).mpr ⟨opens.1, rfl⟩,
      start, (opensAt_iff opens.1).mpr opens, rfl⟩

/-- Whatever the kind and the frequency, a period is computed from the starts
of the days that it should have. -/
theorem spendingPeriod_eq_ok_iff
    (known : parseTimezone clocks timezone = .ok clock) (kind : PeriodKind)
    (frequency : Frequency) :
    (∃ label, spendingPeriod clocks kind frequency now timezone =
      .ok (period, label)) ↔
      IsComputed clock (localDay clock now)
        (calendarDays kind frequency (localDay clock now)) period := by
  have named (computed : Calculation Period) (name : String) :
      (∃ label, (computed >>= fun period => pure (period, name)) =
        .ok (period, label)) ↔ computed = .ok period := by
    simp only [bind_eq_ok_iff, pure_eq_ok_iff, Prod.mk.injEq]
    constructor
    · rintro ⟨_, _, isOk, rfl, _⟩
      exact isOk
    · intro isOk
      exact ⟨name, period, isOk, rfl, rfl⟩
  have entered {Value : Type} (rest : WallClock → Calculation Value) :
      (parseTimezone clocks timezone >>= rest) = rest clock := by
    rw [known]
    rfl
  cases kind with
  | interactive =>
      simp only [spendingPeriod, interactivePeriod, entered]
      cases frequency with
      | daily => rw [named, today_eq_ok_iff]
      | weekly => rw [named, thisWeek_eq_ok_iff]
      | monthly => rw [named, thisMonth_eq_ok_iff]
  | scheduled =>
      simp only [spendingPeriod, scheduledPeriod, entered]
      cases frequency with
      | daily => rw [named, yesterday_eq_ok_iff]
      | weekly => rw [named, lastWeek_eq_ok_iff]
      | monthly => rw [named, lastMonth_eq_ok_iff]

end Computing

section Agreement

variable {clocks : ZoneClocks} {clock : WallClock} {timezone : String}
variable {now : Timestamp} {period : Period}

/-- The instants of a period are those of its calendar days. -/
def Period.IsCalendar (period : Period) (clock : WallClock)
    (days : CalendarDays) : Prop :=
  ∀ instant ∈ representable,
    period.start ≤ instant ∧ instant < period.stop ↔
      days.Covers clock instant

/-- The period of the calendar: it holds the instants of its days, today's
holds the current instant and selects the expenses of the current local date,
and the periods of consecutive days share their boundary. -/
structure KeepsCalendar (clocks : ZoneClocks) (clock : WallClock)
    (timezone : String) (kind : PeriodKind) (frequency : Frequency)
    (now : Timestamp) (period : Period) : Prop where
  members : period.IsCalendar clock
    (calendarDays kind frequency (localDay clock now))
  current : kind = .interactive → period.start ≤ now ∧ now < period.stop
  selects : kind = .interactive → frequency = .daily →
    ∀ accountId (row : ExpenseRow), row.occurredAt ∈ representable →
      SpendingTotals.inPeriod accountId period.start period.stop row =
        SpendingTotals.onLocalDate (localDay clock) accountId now row
  adjoins : frequency = .daily → ∀ later next label,
    localDay clock later = localDay clock now + 1 →
    spendingPeriod clocks kind frequency later timezone =
      .ok (next, label) → next.start = period.stop

/-- The calculation succeeds with the period of the calendar. -/
def ComputesCalendar (clocks : ZoneClocks) (clock : WallClock)
    (timezone : String) (kind : PeriodKind) (frequency : Frequency)
    (now : Timestamp) : Prop :=
  ∃ period label, spendingPeriod clocks kind frequency now timezone =
    .ok (period, label) ∧
      KeepsCalendar clocks clock timezone kind frequency now period

/-- A day begins once, and as late as its start may be taken to be: no fold
leads back over its midnight, and the clock shows that midnight, or it skips to
01:00, or to another whole minute until 03:00, where an earlier one than 01:00
asks that it skips 01:00 as well. -/
def DayBegins (clock : WallClock) (day : Int) : Prop :=
  IsDay day ∧ ∃ opening ∈ representable,
    (∀ instant ∈ representable, instant < opening →
      clock.read instant < day * dayLength) ∧
    (∀ instant ∈ representable, opening ≤ instant →
      clock.read opening ≤ clock.read instant) ∧
    ∃ minute : Nat, minute ≤ 180 ∧
      clock.read opening = day * dayLength + minute * minuteLength ∧
      (0 < minute → minute < 60 →
        ¬ clock.Shows representable (day * dayLength + 60 * minuteLength))

/-- The clock shows a whole minute of the first three hours of a day. -/
def IsEntered (clock : WallClock) (day : Int) : Prop :=
  IsDay day ∧ ∃ minute : Nat, minute ≤ 180 ∧
    clock.Shows representable (day * dayLength + minute * minuteLength)

/-- The library represents today, the days of the period begin and end without
a fold over their midnights or a gap that is not resolved, and the day after
the whole week or month is entered. -/
structure ClockKeeps (clock : WallClock) (today : Int) (days : CalendarDays) :
    Prop where
  today : IsDay today
  begins : DayBegins clock days.first
  ends : DayBegins clock days.next
  whole : IsEntered clock days.whole

variable {kind : PeriodKind} {frequency : Frequency} {day : Int}

theorem le_localDay_iff {instant : Timestamp} :
    day ≤ localDay clock instant ↔ day * dayLength ≤ clock.read instant := by
  rw [localDay, dayLength]
  omega

theorem calendarDays_nonempty (kind : PeriodKind) (frequency : Frequency)
    (day : Int) : (calendarDays kind frequency day).first <
      (calendarDays kind frequency day).next := by
  have monday := mondayOf_bounds day
  have month := monthOf_bounds day
  have previous := firstOfMonth_succ (monthOf day - 1)
  rw [sub_add_cancel] at previous
  cases kind <;> cases frequency <;>
    simp only [calendarDays] <;> omega

theorem calendarDays_next_le (kind : PeriodKind) (frequency : Frequency)
    (day : Int) : (calendarDays kind frequency day).next ≤
      (calendarDays kind frequency day).whole := by
  have monday := mondayOf_bounds day
  have month := monthOf_bounds day
  cases kind <;> cases frequency <;>
    simp only [calendarDays] <;> omega

theorem calendarDays_current (frequency : Frequency) (day : Int) :
    (calendarDays .interactive frequency day).first ≤ day ∧
      day < (calendarDays .interactive frequency day).next := by
  have monday := mondayOf_bounds day
  have month := monthOf_bounds day
  cases frequency <;> simp only [calendarDays] <;> omega

/-- Where a day begins without a fold, its start divides the instants. -/
theorem DayBegins.exists_opening (begins : DayBegins clock day) :
    ∃ opening, OpensAt clock day opening ∧ ∀ instant ∈ representable,
      opening ≤ instant ↔ day ≤ localDay clock instant := by
  obtain ⟨isDay, opening, inRange, before, behind, minute, within, shown,
    skipsHour⟩ := begins
  have divides (instant : Timestamp) (isInstant : instant ∈ representable) :
      opening ≤ instant ↔ day * dayLength ≤ clock.read instant := by
    constructor
    · intro after
      have later := behind instant isInstant after
      rw [shown, minuteLength] at later
      omega
    · intro reached
      by_contra early
      have earlier := before instant isInstant (not_le.mp early)
      omega
  have skips {time : Int} (above : day * dayLength ≤ time)
      (below : time < clock.read opening) :
      ¬ clock.Shows representable time := by
    rintro ⟨instant, isInstant, shows⟩
    rw [← shows] at above below
    have after := behind instant isInstant
      ((divides instant isInstant).mpr above)
    omega
  rw [shown, minuteLength] at skips
  rw [minuteLength] at skipsHour
  refine ⟨opening, ⟨isDay, clock.read opening, ⟨minute, within,
    fun notZero => ⟨skips le_rfl (by omega), fun notHour => ⟨?_,
      fun earlier above below => ?_⟩⟩, fun notZero => ?_,
    ⟨opening, inRange, rfl⟩, shown⟩, inRange, rfl, ?_⟩, ?_⟩
  · rw [minuteLength]
    rcases lt_or_gt_of_ne notHour with sooner | later
    · exact skipsHour (by omega) sooner
    · exact skips (by omega) (by omega)
  · rw [minuteLength]
    exact skips (by omega) (by omega)
  · refine representable_of_day isDay ?_ ?_ <;>
      rw [dayLength, minuteLength] <;> omega
  · intro other isOther same
    rw [divides other isOther, same, shown, minuteLength]
    omega
  · intro instant isInstant
    rw [le_localDay_iff]
    exact divides instant isInstant

/-- A day that is entered has a start. -/
theorem IsEntered.exists_opening (entered : IsEntered clock day) :
    ∃ opening, OpensAt clock day opening := by
  obtain ⟨isDay, minute, within, shows⟩ := entered
  have inDay {minute : Nat} (within : minute ≤ 180) :
      day * dayLength + max 60 minute * minuteLength ∈ representable := by
    refine representable_of_day isDay ?_ ?_ <;>
      rw [dayLength, minuteLength] <;> omega
  have opens {time : Int} (stands : StandsFor clock (day * dayLength) time) :
      ∃ opening, OpensAt clock day opening := by
    obtain ⟨opening, resolves, -⟩ := stands.exists_resolvesTo
    exact ⟨opening, isDay, resolves⟩
  by_cases midnight : clock.Shows representable (day * dayLength)
  · exact opens (standsFor_self midnight)
  by_cases hour : clock.Shows representable
      (day * dayLength + 60 * minuteLength)
  · have hourInDay := inDay (Nat.zero_le 180)
    rw [Nat.max_zero] at hourInDay
    exact opens (standsFor_hour midnight hourInDay hour)
  classical
  have found : ∃ minute : Nat, minute ≤ 180 ∧ clock.Shows representable
      (day * dayLength + minute * minuteLength) :=
    ⟨minute, within, shows⟩
  obtain ⟨least, leastShows⟩ := Nat.find_spec found
  exact opens ⟨Nat.find found, least, fun _ => ⟨midnight, fun _ => ⟨hour,
    fun earlier _ below shown => Nat.find_min found below
      ⟨le_trans (le_of_lt below) least, shown⟩⟩⟩, fun _ => inDay least,
    leastShows, rfl⟩

/-- The start of a day that divides the instants begins it without a fold. -/
theorem OpensAt.dayBegins {opening : Timestamp}
    (steady : clock.Steady representable dayLength)
    (opens : OpensAt clock day opening)
    (divides : ∀ instant ∈ representable,
      opening ≤ instant ↔ day ≤ localDay clock instant) :
    DayBegins clock day := by
  simp only [le_localDay_iff] at divides
  obtain ⟨isDay, time, ⟨minute, within, skips, -, -, rfl⟩, inRange, shown,
    least⟩ := opens
  refine ⟨isDay, opening, inRange, fun instant isInstant before => ?_,
    fun instant isInstant behind => ?_, minute, within, shown,
    fun above below => ((skips (by omega)).2 (by omega)).1⟩
  · by_contra reached
    exact absurd before
      (not_lt.mpr ((divides instant isInstant).mpr (not_lt.mp reached)))
  · by_contra earlier
    obtain ⟨first, firstShown⟩ :=
      WallClock.Shows.exists_first ⟨instant, isInstant, rfl⟩
    rw [not_le, shown] at earlier
    have inOrder := steady.inOrder _ _ _ _ earlier firstShown
      ⟨inRange, shown, least⟩
    have midnight := (divides instant isInstant).mp behind
    rw [← firstShown.2.1] at midnight
    exact absurd inOrder
      (not_lt.mpr ((divides first firstShown.1).mpr midnight))

/-- Before a day's start a clock without disorder has not shown its fourth
hour. -/
theorem OpensAt.read_lt {opening instant : Timestamp}
    (steady : clock.Steady representable dayLength)
    (opens : OpensAt clock day opening) (isInstant : instant ∈ representable)
    (before : instant < opening) :
    clock.read instant < day * dayLength + 180 * minuteLength := by
  obtain ⟨-, time, stands, first⟩ := opens
  exact lt_of_lt_of_le (steady.read_lt first isInstant before)
    stands.bounds.2

section Boundaries

variable {days : CalendarDays} {start stop whole : Timestamp}
variable (steady : clock.Steady representable dayLength)
  (nonempty : days.first < days.next)
  (opens : OpensAt clock days.first start)
  (closes : OpensAt clock days.next stop)
include steady nonempty opens closes

/-- The boundaries of a period of the calendar divide the instants. -/
theorem divides_of_isCalendar
    (isCalendar : Period.IsCalendar ⟨start, stop⟩ clock days) :
    (∀ instant ∈ representable,
      start ≤ instant ↔ days.first ≤ localDay clock instant) ∧
    (∀ instant ∈ representable,
      stop ≤ instant ↔ days.next ≤ localDay clock instant) := by
  have startDay := opens.localDay_eq
  have stopDay := closes.localDay_eq
  have nonvoid : start < stop :=
    ((isCalendar start opens.2.mem).mpr (by
      rw [CalendarDays.Covers, startDay]
      exact ⟨le_rfl, nonempty⟩)).2
  have behind (instant : Timestamp) (isInstant : instant ∈ representable)
      (after : stop ≤ instant) : days.first ≤ localDay clock instant := by
    have setBack := steady.setBack stop closes.2.mem instant isInstant after
    have bounds := closes.2.read_bounds
    rw [localDay]
    rw [dayLength] at setBack bounds ⊢
    omega
  have before (instant : Timestamp) (isInstant : instant ∈ representable)
      (early : instant < start) : localDay clock instant < days.next := by
    have bound := opens.read_lt steady isInstant early
    rw [localDay]
    rw [dayLength, minuteLength] at bound
    rw [dayLength]
    omega
  refine ⟨fun instant isInstant => ⟨fun after => ?_, fun reached => ?_⟩,
    fun instant isInstant => ⟨fun after => ?_, fun reached => ?_⟩⟩
  · rcases lt_or_ge instant stop with inside | outside
    · exact ((isCalendar instant isInstant).mp ⟨after, inside⟩).1
    · exact behind instant isInstant outside
  · by_contra early
    have covered := (isCalendar instant isInstant).mpr
      ⟨reached, before instant isInstant (not_le.mp early)⟩
    exact early covered.1
  · by_contra inside
    have covered := (isCalendar instant isInstant).mpr
      ⟨behind instant isInstant after, not_le.mp inside⟩
    exact absurd covered.2 (not_lt.mpr after)
  · by_contra early
    rcases lt_or_ge instant start with outside | inside
    · exact absurd (before instant isInstant outside) (not_lt.mpr reached)
    · exact absurd ((isCalendar instant isInstant).mp
        ⟨inside, not_le.mp early⟩).2 (not_lt.mpr reached)

omit nonempty opens in
/-- A period that ends with its last day is not cut off. -/
theorem min_whole (following : days.next ≤ days.whole)
    (ends : OpensAt clock days.whole whole) : min stop whole = stop := by
  rcases lt_or_eq_of_le following with later | same
  · refine min_eq_left ?_
    by_contra early
    have bound := closes.read_lt steady ends.2.mem (not_le.mp early)
    have bounds := ends.2.read_bounds
    rw [dayLength, minuteLength] at bound bounds
    omega
  · rw [← same] at ends
    rw [ends.unique closes, min_self]

end Boundaries

/-- A computed period is the period of the calendar exactly if the clock keeps
its days. -/
theorem isComputed_isCalendar_iff {days : CalendarDays} {today : Int}
    (steady : clock.Steady representable dayLength)
    (nonempty : days.first < days.next)
    (following : days.next ≤ days.whole) :
    (∃ period, IsComputed clock today days period ∧
      period.IsCalendar clock days) ↔ ClockKeeps clock today days := by
  constructor
  · rintro ⟨_, ⟨isToday, start, stop, whole, opens, closes, ends, rfl⟩,
      isCalendar⟩
    rw [min_whole steady closes following ends] at isCalendar
    obtain ⟨fromStart, fromStop⟩ :=
      divides_of_isCalendar steady nonempty opens closes isCalendar
    refine ⟨isToday, opens.dayBegins steady fromStart,
      closes.dayBegins steady fromStop, ends.1, ?_⟩
    obtain ⟨-, time, ⟨minute, within, -, -, shows, rfl⟩, -⟩ := ends
    exact ⟨minute, within, shows⟩
  · rintro ⟨isToday, begins, closes, entered⟩
    obtain ⟨start, opens, fromStart⟩ := begins.exists_opening
    obtain ⟨stop, closes, fromStop⟩ := closes.exists_opening
    obtain ⟨whole, ends⟩ := entered.exists_opening
    refine ⟨⟨start, min stop whole⟩, ⟨isToday, start, stop, whole, opens,
      closes, ends, rfl⟩, fun instant isInstant => ?_⟩
    rw [min_whole steady closes following ends,
      CalendarDays.Covers, fromStart instant isInstant, ← not_le,
      fromStop instant isInstant, not_le]

/-- What follows for the period of the calendar. -/
theorem keepsCalendar_of_isCalendar (valid : now ∈ representable)
    (known : parseTimezone clocks timezone = .ok clock)
    (computed : IsComputed clock (localDay clock now)
      (calendarDays kind frequency (localDay clock now)) period)
    (isCalendar : period.IsCalendar clock
      (calendarDays kind frequency (localDay clock now))) :
    KeepsCalendar clocks clock timezone kind frequency now period where
  members := isCalendar
  current := by
    rintro rfl
    exact (isCalendar now valid).mpr (calendarDays_current frequency _)
  selects := by
    rintro rfl rfl accountId row isInstant
    have member : period.start ≤ row.occurredAt ∧
        row.occurredAt < period.stop ↔
          localDay clock row.occurredAt = localDay clock now := by
      rw [isCalendar row.occurredAt isInstant, CalendarDays.Covers]
      simp only [calendarDays]
      omega
    rw [SpendingTotals.inPeriod, SpendingTotals.onLocalDate, Bool.and_assoc]
    congr 1
    rw [← Bool.decide_and]
    exact decide_eq_decide.mpr member
  adjoins := by
    rintro rfl later next label tomorrow nextComputed
    obtain ⟨-, start, stop, whole, -, closes, ends, rfl⟩ := computed
    obtain ⟨-, nextStart, _, _, nextOpens, -, -, rfl⟩ :=
      (spendingPeriod_eq_ok_iff known kind .daily).mp ⟨label, nextComputed⟩
    rw [tomorrow] at nextOpens
    cases kind with
    | interactive =>
        have same : stop = whole := closes.unique ends
        rw [← same, min_self]
        exact nextOpens.unique closes
    | scheduled =>
        have same : stop = whole := closes.unique ends
        rw [← same, min_self]
        simp only [calendarDays, add_sub_cancel_right] at nextOpens
        exact nextOpens.unique closes

/-- The period of a command or of a scheduled summary is the one of the local
calendar exactly when the clock of the zone keeps its days. -/
theorem periods_are_calendar_iff (kind : PeriodKind) (frequency : Frequency)
    (valid : now ∈ representable)
    (known : parseTimezone clocks timezone = .ok clock)
    (steady : clock.Steady representable dayLength) :
    ComputesCalendar clocks clock timezone kind frequency now ↔
      ClockKeeps clock (localDay clock now)
        (calendarDays kind frequency (localDay clock now)) := by
  rw [← isComputed_isCalendar_iff steady
    (calendarDays_nonempty kind frequency _)
    (calendarDays_next_le kind frequency _)]
  constructor
  · rintro ⟨period, label, computed, keeps⟩
    exact ⟨period, (spendingPeriod_eq_ok_iff known kind frequency).mp
      ⟨label, computed⟩, keeps.members⟩
  · rintro ⟨period, computed, isCalendar⟩
    obtain ⟨label, isOk⟩ :=
      (spendingPeriod_eq_ok_iff known kind frequency).mpr computed
    exact ⟨period, label, isOk,
      keepsCalendar_of_isCalendar valid known computed isCalendar⟩

end Agreement

section Samples

/-- New York in 2026, from before the change to daylight saving time on the
8th of March. -/
def newYorkClock : WallClock :=
  .ofSpans (-18000000000) [(1772953200000000, -14400000000)]

def newYorkOnly : ZoneClocks := fun name =>
  if name = "America/New_York" then some newYorkClock else none

/-- The 8th of March 2026 at 12:00 local time. -/
def newYorkNow : Timestamp :=
  1772985600000000

theorem newYorkClock_read (instant : Int) :
    newYorkClock.read instant =
      if 1772953200000000 ≤ instant then instant - 14400000000
      else instant - 18000000000 := by
  have offset : newYorkClock.offset instant =
      if 1772953200000000 ≤ instant then -14400000000
      else -18000000000 := rfl
  rw [WallClock.read, offset]
  split <;> omega

theorem newYorkClock_strictMono : StrictMono newYorkClock.read := by
  intro earlier later before
  rw [newYorkClock_read, newYorkClock_read]
  split <;> split <;> omega

/-- A day begins when the clock, which only moves forward, shows its
midnight. -/
theorem newYorkClock_begins (opening : Int) {day : Int} (isDay : IsDay day)
    (inRange : opening ∈ representable)
    (shown : newYorkClock.read opening = day * dayLength) :
    DayBegins newYorkClock day := by
  refine ⟨isDay, opening, inRange, fun instant _ before => ?_,
    fun instant _ behind => newYorkClock_strictMono.monotone behind,
    0, by omega, by simpa using shown, fun above => absurd above (by omega)⟩
  rw [← shown]
  exact newYorkClock_strictMono before

theorem periods_are_calendar_new_york :
    ComputesCalendar newYorkOnly newYorkClock "America/New_York" .interactive
      .daily newYorkNow := by
  refine (periods_are_calendar_iff .interactive .daily (by decide) rfl
    (WallClock.steady_of_strictMono newYorkClock_strictMono
      (by decide))).mpr ?_
  have today : localDay newYorkClock newYorkNow = 20520 := by decide
  rw [today]
  exact ⟨by decide,
    newYorkClock_begins 1772946000000000 (by decide) (by decide)
      (by decide),
    newYorkClock_begins 1773028800000000 (by decide) (by decide)
      (by decide),
    by decide, 0, by omega, 1773028800000000, by decide, by decide⟩

/-- In Samoa the day after the 29th of December 2011 never starts. -/
theorem skipped_day_panics :
    ¬ ComputesCalendar Conversation.apiaOnly Conversation.apiaClock
      "Pacific/Apia" .interactive .daily 1325196000000000 := by
  rintro ⟨period, label, computed, -⟩
  have panics : spendingPeriod Conversation.apiaOnly .interactive .daily
      1325196000000000 "Pacific/Apia" =
        .error (.panicked "local midnight") := by
    decide +kernel
  rw [panics] at computed
  contradiction

example : today (maxDay * dayLength) Conversation.utcClock =
    .error (.panicked "`NaiveDate + TimeDelta` overflowed") := by
  decide

end Samples

end Schedules

end ZaloBot
