import ZaloBot.BotRows
import ZaloBot.DateEdits
import ZaloBot.Transactions

/-!
# Instants of schedules and spending periods

The calculations of `next_run` on the clocks of the time zone database.  A
local time that a clock shows twice is resolved to the first instant; a time
that it skips, to the time an hour later or, where that is skipped too, to the
next whole minute within three hours.  Dates, local times and instants are
those of the years that the library represents; what leaves them panics.
-/

namespace ZaloBot

namespace Schedules

open CivilDates
open Conversation (NaiveDate ZoneClocks localDay dayLength)

/-- `ScheduleError`. -/
inductive ScheduleError where
  | invalidTimezone
  | invalidDeliveryMinute
  | unsupportedFrequency
deriving DecidableEq, Repr

/-- How a calculation ends without a result. -/
inductive ScheduleFault where
  | returned (error : ScheduleError)
  | panicked (message : String)
deriving DecidableEq, Repr

abbrev Calculation (Value : Type) :=
  Except ScheduleFault Value

/-- `Period`. -/
structure Period where
  start : Timestamp
  stop : Timestamp
deriving DecidableEq, Repr

/-- A minute in microseconds. -/
def minuteLength : Int :=
  60000000

/-- `NaiveDate::MIN`, the 1st of January of the year -262143. -/
def minDay : Int :=
  firstOfMonth (12 * -262143)

/-- `NaiveDate::MAX`, the 31st of December of the year 262142. -/
def maxDay : Int :=
  firstOfMonth (12 * 262143) - 1

/-- The days that have a `NaiveDate`. -/
def IsDay (day : Int) : Prop :=
  minDay ≤ day ∧ day ≤ maxDay

instance (day : Int) : Decidable (IsDay day) :=
  inferInstanceAs (Decidable (_ ∧ _))

/-- The local times of `NaiveDateTime`, and the instants of `DateTime`. -/
def representable : Set Int :=
  Set.Ico (minDay * dayLength) ((maxDay + 1) * dayLength)

instance decidableRepresentable : DecidablePred (· ∈ representable) :=
  fun _ => inferInstanceAs (Decidable (_ ∧ _))

section Library

/-- `expect` on an option. -/
def expectSome {Value : Type} (message : String) :
    Option Value → Calculation Value
  | none => .error (.panicked message)
  | some value => .ok value

/-- `expect` on the result of a calculation. -/
def expectOk {Value : Type} (message : String) :
    Calculation Value → Calculation Value
  | .error (.returned _) => .error (.panicked message)
  | .error (.panicked earlier) => .error (.panicked earlier)
  | .ok value => .ok value

/-- `NaiveDate::from_ymd_opt`. -/
def fromYmdOpt (year : Int) (month day : Nat) : Option NaiveDate :=
  let date : NaiveDate := ⟨year, month, day⟩
  if date.IsValid ∧ IsDay date.number then some date else none

/-- `and_hms_opt`, without seconds. -/
def andHmsOpt (date : NaiveDate) (hour minute : Int) : Option Int :=
  if 0 ≤ hour ∧ hour < 24 ∧ 0 ≤ minute ∧ minute < 60 then
    some (date.number * dayLength + (hour * 60 + minute) * minuteLength)
  else
    none

/-- `date + Duration::days(days)`. -/
def addDays (date : NaiveDate) (days : Int) : Calculation NaiveDate :=
  if IsDay (date.number + days) then
    .ok (.ofNumber (date.number + days))
  else
    .error (.panicked "`NaiveDate + TimeDelta` overflowed")

/-- `date - Duration::days(days)`. -/
def subDays (date : NaiveDate) (days : Int) : Calculation NaiveDate :=
  if IsDay (date.number - days) then
    .ok (.ofNumber (date.number - days))
  else
    .error (.panicked "`NaiveDate - TimeDelta` overflowed")

/-- `naive + Duration::minutes(minutes)`. -/
def addMinutes (naive minutes : Int) : Calculation Int :=
  if naive + minutes * minuteLength ∈ representable then
    .ok (naive + minutes * minuteLength)
  else
    .error (.panicked "`NaiveDateTime + TimeDelta` overflowed")

/-- `weekday().num_days_from_monday()`. -/
def numDaysFromMonday (date : NaiveDate) : Int :=
  weekday date.number

/-- `LocalResult`. -/
inductive LocalResult where
  | none
  | single (instant : Timestamp)
  | ambiguous (earlier later : Timestamp)
deriving DecidableEq, Repr

/-- `from_local_datetime`. -/
def fromLocalDatetime (tz : WallClock) (naive : Int) : LocalResult :=
  match tz.shownWithin representable naive with
  | [] => .none
  | [instant] => .single instant
  | earlier :: later :: _ => .ambiguous earlier later

/-- A match of a `LocalResult` that takes the instant, or the earlier of two,
and goes on where there is none. -/
def LocalResult.earlierOr (result : LocalResult)
    (otherwise : Calculation Timestamp) : Calculation Timestamp :=
  match result with
  | .single instant => .ok instant
  | .ambiguous earlier _ => .ok earlier
  | .none => otherwise

/-- The date that `year`, `month`, `day` and `weekday` read off an instant in a
time zone. -/
def localDate (tz : WallClock) (instant : Timestamp) : NaiveDate :=
  .ofNumber (localDay tz instant)

/-- `date_naive`. -/
def dateNaive (tz : WallClock) (instant : Timestamp) :
    Calculation NaiveDate :=
  if tz.read instant ∈ representable then
    .ok (localDate tz instant)
  else
    .error (.panicked "Local time out of range for `NaiveDateTime`")

end Library

/-- `parse_timezone`. -/
def parseTimezone (clocks : ZoneClocks) (value : String) :
    Calculation WallClock :=
  if RustText.toAsciiLowercase value = "local" then
    .error (.returned .invalidTimezone)
  else
    match clocks value with
    | none => .error (.returned .invalidTimezone)
    | some tz => .ok tz

/-- `validate_delivery_minute`. -/
def validateDeliveryMinute (minute : Int) : Calculation Unit :=
  if 0 ≤ minute ∧ minute < 24 * 60 then
    .ok ()
  else
    .error (.returned .invalidDeliveryMinute)

/-- `scan_forward_local`. -/
def scanForwardLocal (naive : Int) (tz : WallClock) :
    Calculation Timestamp :=
  scan 180
where
  scan : Nat → Calculation Timestamp
    | 0 => .error (.returned .invalidTimezone)
    | remaining + 1 => do
        let candidate ← addMinutes naive (180 - remaining)
        (fromLocalDatetime tz candidate).earlierOr (scan remaining)

/-- `resolve_local_datetime`. -/
def resolveLocalDatetime (naive : Int) (tz : WallClock) :
    Calculation Timestamp :=
  (fromLocalDatetime tz naive).earlierOr do
    let shifted ← addMinutes naive 60
    (fromLocalDatetime tz shifted).earlierOr (scanForwardLocal naive tz)

/-- `local_delivery_datetime`. -/
def localDeliveryDatetime (year : Int) (month day : Nat)
    (deliveryMinute : Int) (tz : WallClock) : Calculation Timestamp := do
  validateDeliveryMinute deliveryMinute
  let hour := deliveryMinute / 60
  let minute := deliveryMinute % 60
  let date ← expectSome "valid date" (fromYmdOpt year month day)
  let naive ← expectSome "valid clock time" (andHmsOpt date hour minute)
  resolveLocalDatetime naive tz

/-- The delivery of a date. -/
def deliveryOn (date : NaiveDate) (deliveryMinute : Int) (tz : WallClock) :
    Calculation Timestamp :=
  localDeliveryDatetime date.year date.month date.day deliveryMinute tz

/-- The first day of the next month. -/
def nextMonth (year : Int) (month : Nat) : Option NaiveDate :=
  if month = 12 then fromYmdOpt (year + 1) 1 1
  else fromYmdOpt year (month + 1) 1

/-- The first day of the previous month. -/
def previousMonth (year : Int) (month : Nat) : Option NaiveDate :=
  if month = 1 then fromYmdOpt (year - 1) 12 1
  else fromYmdOpt year (month - 1) 1

/-- `next_delivery`. -/
def nextDelivery (clocks : ZoneClocks) (now : Timestamp) (timezone : String)
    (frequency : Frequency) (deliveryMinute : Int) :
    Calculation Timestamp := do
  validateDeliveryMinute deliveryMinute
  let tz ← parseTimezone clocks timezone
  let localNow := localDate tz now
  let candidate ← deliveryOn localNow deliveryMinute tz
  match frequency with
  | .daily =>
      if ¬ now < candidate then do
        let date ← dateNaive tz candidate
        let nextDay ← addDays date 1
        deliveryOn nextDay deliveryMinute tz
      else
        pure candidate
  | .weekly => do
      let daysUntilMonday :=
        (0 - numDaysFromMonday (localDate tz candidate) + 7) % 7
      let candidate ←
        if 0 < daysUntilMonday then do
          let date ← dateNaive tz candidate
          let shifted ← addDays date daysUntilMonday
          deliveryOn shifted deliveryMinute tz
        else
          pure candidate
      if ¬ now < candidate then do
        let date ← dateNaive tz candidate
        let shifted ← addDays date 7
        deliveryOn shifted deliveryMinute tz
      else
        pure candidate
  | .monthly => do
      let candidate ← localDeliveryDatetime localNow.year localNow.month 1
        deliveryMinute tz
      if ¬ now < candidate then do
        let next ← expectSome "valid month boundary"
          (nextMonth localNow.year localNow.month)
        deliveryOn next deliveryMinute tz
      else
        pure candidate

/-- `latest_delivery`. -/
def latestDelivery (clocks : ZoneClocks) (now : Timestamp)
    (timezone : String) (frequency : Frequency) (deliveryMinute : Int) :
    Calculation Timestamp := do
  validateDeliveryMinute deliveryMinute
  let tz ← parseTimezone clocks timezone
  let localNow := localDate tz now
  let candidate ← deliveryOn localNow deliveryMinute tz
  match frequency with
  | .daily =>
      if now < candidate then do
        let date ← dateNaive tz candidate
        let prev ← subDays date 1
        deliveryOn prev deliveryMinute tz
      else
        pure candidate
  | .weekly => do
      let daysSinceMonday := numDaysFromMonday (localDate tz candidate)
      let date ← dateNaive tz candidate
      let monday ← subDays date daysSinceMonday
      let candidate ← deliveryOn monday deliveryMinute tz
      if now < candidate then do
        let date ← dateNaive tz candidate
        let prevMonday ← subDays date 7
        deliveryOn prevMonday deliveryMinute tz
      else
        pure candidate
  | .monthly => do
      let candidate ← localDeliveryDatetime localNow.year localNow.month 1
        deliveryMinute tz
      if now < candidate then do
        let previous ← expectSome "valid month boundary"
          (previousMonth localNow.year localNow.month)
        deliveryOn previous deliveryMinute tz
      else
        pure candidate

/-- The start of a date, with the words of the panic where it has none. -/
def startOf (message : String) (date : NaiveDate) (tz : WallClock) :
    Calculation Timestamp := do
  let midnight ← expectSome "midnight" (andHmsOpt date 0 0)
  expectOk message (resolveLocalDatetime midnight tz)

/-- `local_date_start`. -/
def localDateStart (date : NaiveDate) (tz : WallClock) :
    Calculation Timestamp :=
  startOf "local midnight" date tz

/-- `today`. -/
def today (now : Timestamp) (tz : WallClock) : Calculation Period := do
  let startDate ← dateNaive tz now
  let start ← localDateStart startDate tz
  let tomorrow ← addDays startDate 1
  let stop ← localDateStart tomorrow tz
  pure ⟨start, stop⟩

/-- `yesterday`. -/
def yesterday (anchor : Timestamp) (tz : WallClock) :
    Calculation Period := do
  let endDate ← dateNaive tz anchor
  let dayBefore ← subDays endDate 1
  let start ← localDateStart dayBefore tz
  let stop ← localDateStart endDate tz
  pure ⟨start, stop⟩

/-- `week_start`. -/
def weekStart (anchor : Timestamp) (tz : WallClock) :
    Calculation Timestamp := do
  let date ← dateNaive tz anchor
  let monday ← subDays date (numDaysFromMonday date)
  localDateStart monday tz

/-- `this_week`. -/
def thisWeek (now : Timestamp) (tz : WallClock) : Calculation Period := do
  let start ← weekStart now tz
  let monday ← dateNaive tz start
  let nextMonday ← addDays monday 7
  let fullEnd ← localDateStart nextMonday tz
  let date ← dateNaive tz now
  let nextDay ← addDays date 1
  let tomorrow ← localDateStart nextDay tz
  pure ⟨start, if tomorrow < fullEnd then tomorrow else fullEnd⟩

/-- `last_week`. -/
def lastWeek (anchor : Timestamp) (tz : WallClock) : Calculation Period := do
  let thisStart ← weekStart anchor tz
  let monday ← dateNaive tz thisStart
  let lastMonday ← subDays monday 7
  let start ← localDateStart lastMonday tz
  pure ⟨start, thisStart⟩

/-- `month_start`. -/
def monthStart (anchor : Timestamp) (tz : WallClock) :
    Calculation Timestamp := do
  let date ← dateNaive tz anchor
  let first ← expectSome "month start" (fromYmdOpt date.year date.month 1)
  localDateStart first tz

/-- `this_month`. -/
def thisMonth (now : Timestamp) (tz : WallClock) : Calculation Period := do
  let start ← monthStart now tz
  let month := localDate tz start
  let next ← expectSome
    (if month.month = 12 then "year boundary" else "month boundary")
    (nextMonth month.year month.month)
  let fullEnd ← startOf "next month" next tz
  let date ← dateNaive tz now
  let nextDay ← addDays date 1
  let tomorrow ← localDateStart nextDay tz
  pure ⟨start, if tomorrow < fullEnd then tomorrow else fullEnd⟩

/-- `last_month`. -/
def lastMonth (anchor : Timestamp) (tz : WallClock) :
    Calculation Period := do
  let thisStart ← monthStart anchor tz
  let month := localDate tz thisStart
  let previous ← expectSome "previous month"
    (previousMonth month.year month.month)
  let start ← startOf "previous month start" previous tz
  pure ⟨start, thisStart⟩

/-- `interactive_period`. -/
def interactivePeriod (clocks : ZoneClocks) (frequency : Frequency)
    (now : Timestamp) (timezone : String) : Calculation (Period × String) := do
  let tz ← parseTimezone clocks timezone
  match frequency with
  | .daily => do
      let period ← today now tz
      pure (period, "Hôm nay")
  | .weekly => do
      let period ← thisWeek now tz
      pure (period, "Tuần này")
  | .monthly => do
      let period ← thisMonth now tz
      pure (period, "Tháng này")

/-- `scheduled_period`. -/
def scheduledPeriod (clocks : ZoneClocks) (frequency : Frequency)
    (scheduledFor : Timestamp) (timezone : String) :
    Calculation (Period × String) := do
  let tz ← parseTimezone clocks timezone
  match frequency with
  | .daily => do
      let period ← yesterday scheduledFor tz
      pure (period, "Hôm qua")
  | .weekly => do
      let period ← lastWeek scheduledFor tz
      pure (period, "Tuần trước")
  | .monthly => do
      let period ← lastMonth scheduledFor tz
      pure (period, "Tháng trước")

section Resolution

variable {clock : WallClock} {naive time : Int} {instant other : Timestamp}

/-- The clock skips the time and what is tried before the given minute after
it. -/
def SkipsUntil (clock : WallClock) (naive : Int) (minute : Nat) : Prop :=
  minute ≠ 0 → ¬ clock.Shows representable naive ∧
    (minute ≠ 60 →
      ¬ clock.Shows representable (naive + 60 * minuteLength) ∧
        ∀ earlier : Nat, 0 < earlier → earlier < minute →
          ¬ clock.Shows representable (naive + earlier * minuteLength))

/-- The time that stands for a local time: that time if the clock shows it, or
else the time an hour later if it shows that, or else the next whole minute
within three hours.  No later local time may be tried that is none. -/
def StandsFor (clock : WallClock) (naive time : Int) : Prop :=
  ∃ minute : Nat, minute ≤ 180 ∧ SkipsUntil clock naive minute ∧
    (minute ≠ 0 → naive + max 60 minute * minuteLength ∈ representable) ∧
    clock.Shows representable time ∧ time = naive + minute * minuteLength

/-- The instant that stands for a local time: the first one that shows the time
that does. -/
def ResolvesTo (clock : WallClock) (naive : Int) (instant : Timestamp) :
    Prop :=
  ∃ time, StandsFor clock naive time ∧
    clock.FirstShows representable time instant

/-- A conversion takes the first instant that shows the time. -/
theorem earlierOr_eq_ok_iff {otherwise : Calculation Timestamp} :
    (fromLocalDatetime clock naive).earlierOr otherwise = .ok instant ↔
      clock.FirstShows representable naive instant ∨
        ¬ clock.Shows representable naive ∧ otherwise = .ok instant := by
  have first : (clock.shownWithin representable naive).head? =
      some instant ↔ clock.FirstShows representable naive instant :=
    WallClock.head?_shownWithin_eq_some_iff
  have skipped : clock.shownWithin representable naive = [] ↔
      ¬ clock.Shows representable naive :=
    WallClock.shownWithin_eq_nil_iff
  rw [fromLocalDatetime, ← first, ← skipped]
  rcases clock.shownWithin representable naive with
    _ | ⟨earlier, _ | ⟨later, rest⟩⟩ <;> simp [LocalResult.earlierOr]

theorem addMinutes_bind_eq_ok_iff {minutes : Int}
    {rest : Int → Calculation Timestamp} :
    (addMinutes naive minutes >>= rest) = .ok instant ↔
      naive + minutes * minuteLength ∈ representable ∧
        rest (naive + minutes * minuteLength) = .ok instant := by
  unfold addMinutes
  split
  · rename_i inRange
    simp only [inRange, true_and]
    exact Iff.rfl
  · rename_i outOfRange
    simp only [outOfRange, false_and, iff_false]
    rintro ⟨⟩

/-- Between two local times are only local times. -/
theorem representable_between {last : Int} (valid : naive ∈ representable)
    (lastValid : last ∈ representable) (above : naive ≤ time)
    (below : time ≤ last) : time ∈ representable :=
  ⟨le_trans valid.1 above, lt_of_le_of_lt below lastValid.2⟩

theorem scan_eq_ok_iff (valid : naive ∈ representable) (remaining : Nat)
    (low : remaining ≤ 180) :
    scanForwardLocal.scan naive clock remaining = .ok instant ↔
      ∃ minute : Nat, 180 - remaining < minute ∧ minute ≤ 180 ∧
        (∀ earlier : Nat, 180 - remaining < earlier → earlier < minute →
          ¬ clock.Shows representable (naive + earlier * minuteLength)) ∧
        naive + minute * minuteLength ∈ representable ∧
        clock.FirstShows representable (naive + minute * minuteLength)
          instant := by
  induction remaining with
  | zero =>
      simp only [scanForwardLocal.scan, reduceCtorEq, false_iff, not_exists]
      rintro minute ⟨behind, within, -⟩
      omega
  | succ remaining induction =>
      have step : (180 : Int) - remaining = ((180 - remaining : Nat) : Int) := by
        omega
      unfold scanForwardLocal.scan
      rw [addMinutes_bind_eq_ok_iff, earlierOr_eq_ok_iff, step,
        induction (by omega)]
      constructor
      · rintro ⟨inRange, first | ⟨skipped, minute, behind, within, none,
          minuteInRange, first⟩⟩
        · exact ⟨180 - remaining, by omega, by omega,
            fun earlier above below => by omega, inRange, first⟩
        · refine ⟨minute, by omega, within, fun earlier above below => ?_,
            minuteInRange, first⟩
          by_cases same : earlier = 180 - remaining
          · subst same
            exact skipped
          · exact none earlier (by omega) below
      · rintro ⟨minute, behind, within, none, minuteInRange, first⟩
        have inRange : naive + ((180 - remaining : Nat) : Int) *
            minuteLength ∈ representable := by
          refine representable_between valid minuteInRange ?_ ?_ <;>
            rw [minuteLength] <;> omega
        refine ⟨inRange, ?_⟩
        by_cases same : minute = 180 - remaining
        · subst same
          exact .inl first
        · exact .inr ⟨none _ (by omega) (by omega), minute, by omega, within,
            fun earlier above below => none earlier (by omega) below,
            minuteInRange, first⟩

theorem skipsUntil_zero : SkipsUntil clock naive 0 :=
  fun notZero => absurd rfl notZero

/-- A local time that is shown stands for itself. -/
theorem standsFor_self (shows : clock.Shows representable naive) :
    StandsFor clock naive naive :=
  ⟨0, by omega, skipsUntil_zero, fun notZero => absurd rfl notZero, shows,
    by simp⟩

/-- The time an hour after a time that is skipped stands for it. -/
theorem standsFor_hour (skipped : ¬ clock.Shows representable naive)
    (inRange : naive + 60 * minuteLength ∈ representable)
    (shows : clock.Shows representable (naive + 60 * minuteLength)) :
    StandsFor clock naive (naive + 60 * minuteLength) :=
  ⟨60, by omega, fun _ => ⟨skipped, fun notHour => absurd rfl notHour⟩,
    fun _ => inRange, shows, rfl⟩

theorem resolveLocalDatetime_eq_ok_iff (valid : naive ∈ representable) :
    resolveLocalDatetime naive clock = .ok instant ↔
      ResolvesTo clock naive instant := by
  unfold resolveLocalDatetime scanForwardLocal
  rw [earlierOr_eq_ok_iff, addMinutes_bind_eq_ok_iff, earlierOr_eq_ok_iff,
    scan_eq_ok_iff valid 180 le_rfl]
  constructor
  · rintro (first | ⟨skipped, hourInRange, first | ⟨skippedHour, minute,
      behind, within, none, minuteInRange, first⟩⟩)
    · exact ⟨naive, standsFor_self first.shows, first⟩
    · exact ⟨_, standsFor_hour skipped hourInRange first.shows, first⟩
    · refine ⟨_, ⟨minute, within, fun _ => ⟨skipped, fun _ => ⟨skippedHour,
        fun earlier above below => none earlier (by omega) below⟩⟩, fun _ => ?_,
        first.shows, rfl⟩, first⟩
      rcases le_total 60 minute with later | sooner
      · rw [max_eq_right later]
        exact minuteInRange
      · rw [max_eq_left sooner]
        exact hourInRange
  · rintro ⟨_, ⟨minute, within, skips, inRange, -, rfl⟩, first⟩
    by_cases isZero : minute = 0
    · subst isZero
      simp only [Nat.cast_zero, zero_mul, add_zero] at first
      exact .inl first
    have hourInRange : naive + 60 * minuteLength ∈ representable := by
      refine representable_between valid (inRange isZero) ?_ ?_ <;>
        rw [minuteLength] <;> omega
    refine .inr ⟨(skips isZero).1, hourInRange, ?_⟩
    by_cases isHour : minute = 60
    · subst isHour
      exact .inl first
    · obtain ⟨skippedHour, none⟩ := (skips isZero).2 isHour
      have minuteInRange : naive + minute * minuteLength ∈ representable := by
        refine representable_between valid (inRange isZero) ?_ ?_ <;>
          rw [minuteLength] <;> omega
      exact .inr ⟨skippedHour, minute, by omega, within,
        fun earlier above below => none earlier (by omega) below,
        minuteInRange, first⟩

namespace StandsFor

variable {first second : Int}

theorem unique (firstStands : StandsFor clock naive first)
    (secondStands : StandsFor clock naive second) : first = second := by
  obtain ⟨minute, _, skips, -, shows, rfl⟩ := firstStands
  obtain ⟨otherMinute, _, otherSkips, -, otherShows, rfl⟩ := secondStands
  have ordered (minute otherMinute : Nat)
      (shows : clock.Shows representable (naive + minute * minuteLength))
      (skips : SkipsUntil clock naive otherMinute) (hour : minute ≠ 60)
      (notHour : otherMinute ≠ 60) : ¬ minute < otherMinute := by
    intro below
    obtain ⟨skipped, skipsMore⟩ := skips (by omega)
    by_cases isZero : minute = 0
    · subst isZero
      exact skipped (by simpa using shows)
    · exact (skipsMore notHour).2 minute (by omega) below shows
  have fromHour (minute : Nat)
      (hourShows : clock.Shows representable (naive + 60 * minuteLength))
      (hourSkips : SkipsUntil clock naive 60)
      (shows : clock.Shows representable (naive + minute * minuteLength))
      (skips : SkipsUntil clock naive minute) : minute = 60 := by
    by_contra notHour
    by_cases isZero : minute = 0
    · subst isZero
      exact (hourSkips (by omega)).1 (by simpa using shows)
    · exact ((skips isZero).2 notHour).1 hourShows
  by_cases isHour : minute = 60
  · subst isHour
    rw [fromHour otherMinute shows skips otherShows otherSkips]
  by_cases isOtherHour : otherMinute = 60
  · subst isOtherHour
    exact absurd (fromHour minute otherShows otherSkips shows skips) isHour
  have notBelow := ordered minute otherMinute shows otherSkips isHour isOtherHour
  have notAbove := ordered otherMinute minute otherShows skips isOtherHour isHour
  have same : minute = otherMinute := by omega
  rw [same]

/-- At most three hours are skipped. -/
theorem bounds (stands : StandsFor clock naive time) :
    naive ≤ time ∧ time ≤ naive + 180 * minuteLength := by
  obtain ⟨minute, within, -, -, -, rfl⟩ := stands
  rw [minuteLength]
  omega

/-- What stands for a local time is one. -/
theorem representable (valid : naive ∈ representable)
    (stands : StandsFor clock naive time) : time ∈ representable := by
  obtain ⟨minute, -, -, inRange, -, rfl⟩ := stands
  by_cases isZero : minute = 0
  · subst isZero
    simpa using valid
  · refine representable_between valid (inRange isZero) ?_ ?_ <;>
      rw [minuteLength] <;> omega

theorem exists_resolvesTo (stands : StandsFor clock naive time) :
    ∃ instant, ResolvesTo clock naive instant ∧
      clock.FirstShows Schedules.representable time instant := by
  obtain ⟨-, -, -, -, shows, -⟩ := id stands
  obtain ⟨instant, first⟩ := shows.exists_first
  exact ⟨instant, ⟨time, stands, first⟩, first⟩

end StandsFor

namespace ResolvesTo

theorem unique (first : ResolvesTo clock naive instant)
    (second : ResolvesTo clock naive other) : instant = other := by
  obtain ⟨time, stands, shown⟩ := first
  obtain ⟨_, otherStands, otherShown⟩ := second
  rw [← stands.unique otherStands] at otherShown
  exact shown.unique otherShown

theorem read_bounds (resolves : ResolvesTo clock naive instant) :
    naive ≤ clock.read instant ∧
      clock.read instant ≤ naive + 180 * minuteLength := by
  obtain ⟨time, stands, -, shown, -⟩ := resolves
  rw [shown]
  exact stands.bounds

theorem mem (resolves : ResolvesTo clock naive instant) :
    instant ∈ representable := by
  obtain ⟨_, -, first⟩ := resolves
  exact first.1

end ResolvesTo

end Resolution

section Steps

theorem bind_eq_ok_iff {Value Other : Type} {first : Calculation Value}
    {rest : Value → Calculation Other} {other : Other} :
    (first >>= rest) = .ok other ↔
      ∃ value, first = .ok value ∧ rest value = .ok other :=
  except_bind_eq_ok

theorem pure_eq_ok_iff {Value : Type} {value other : Value} :
    (pure value : Calculation Value) = .ok other ↔ value = other :=
  Except.ok.injEq value other ▸ Iff.rfl

theorem expectSome_eq_ok_iff {Value : Type} {message : String}
    {found : Option Value} {value : Value} :
    expectSome message found = .ok value ↔ found = some value := by
  cases found <;> simp [expectSome]

theorem expectOk_eq_ok_iff {Value : Type} {message : String}
    {result : Calculation Value} {value : Value} :
    expectOk message result = .ok value ↔ result = .ok value := by
  rcases result with (_ | _) | _ <;> simp [expectOk]

end Steps

section Calendar

variable {clock : WallClock} {instant : Timestamp} {date next : NaiveDate}
variable {day days month : Int}

theorem isDay_iff : IsDay day ↔ day * dayLength ∈ representable := by
  rw [representable, Set.mem_Ico, IsDay, dayLength]
  omega

/-- A time of a day is a local time. -/
theorem representable_of_day (isDay : IsDay day) {time : Int}
    (above : day * dayLength ≤ time) (below : time < (day + 1) * dayLength) :
    time ∈ representable := by
  obtain ⟨low, high⟩ := isDay
  rw [dayLength] at above below
  rw [representable, Set.mem_Ico, dayLength]
  omega

theorem isDay_localDay_iff :
    IsDay (localDay clock instant) ↔ clock.read instant ∈ representable := by
  rw [representable, Set.mem_Ico, IsDay, localDay, dayLength]
  omega

@[simp]
theorem number_localDate (clock : WallClock) (instant : Timestamp) :
    (localDate clock instant).number = localDay clock instant :=
  NaiveDate.number_ofNumber _

theorem dateNaive_eq_ok_iff : dateNaive clock instant = .ok date ↔
    IsDay (localDay clock instant) ∧ localDate clock instant = date := by
  rw [dateNaive, isDay_localDay_iff]
  split
  · rename_i inRange
    simp [inRange]
  · rename_i outOfRange
    simp [outOfRange]

theorem addDays_eq_ok_iff : addDays date days = .ok next ↔
    IsDay (date.number + days) ∧
      NaiveDate.ofNumber (date.number + days) = next := by
  rw [addDays]
  split
  · rename_i inRange
    simp [inRange]
  · rename_i outOfRange
    simp [outOfRange]

theorem subDays_eq_ok_iff : subDays date days = .ok next ↔
    IsDay (date.number - days) ∧
      NaiveDate.ofNumber (date.number - days) = next := by
  rw [subDays]
  split
  · rename_i inRange
    simp [inRange]
  · rename_i outOfRange
    simp [outOfRange]

theorem isValid_ofNumber (day : Int) : (NaiveDate.ofNumber day).IsValid := by
  have bounds := monthOf_bounds day
  have number := NaiveDate.number_ofNumber day
  have month : 12 * (monthOf day / 12) +
      (((monthOf day % 12).toNat + 1 : Nat) : Int) = monthOf day + 1 := by
    omega
  refine ⟨?_, ?_, ?_, ?_⟩
  · simp [NaiveDate.ofNumber]
  · simp only [NaiveDate.ofNumber]
    omega
  · simp [NaiveDate.ofNumber]
  · rw [number]
    simp only [NaiveDate.ofNumber, month]
    exact bounds.2

/-- The month of a date of the calendar. -/
def monthNumber (date : NaiveDate) : Int :=
  12 * date.year + (date.month - 1)

theorem monthNumber_ofNumber (day : Int) :
    monthNumber (.ofNumber day) = monthOf day := by
  simp only [monthNumber, NaiveDate.ofNumber]
  omega

@[simp]
theorem monthNumber_localDate (clock : WallClock) (instant : Timestamp) :
    monthNumber (localDate clock instant) =
      monthOf (localDay clock instant) :=
  monthNumber_ofNumber _

theorem number_first (year : Int) (month : Nat) :
    (⟨year, month, 1⟩ : NaiveDate).number =
      firstOfMonth (12 * year + (month - 1)) := by
  simp [NaiveDate.number]

theorem isValid_first (year : Int) {month : Nat} (fromOne : 1 ≤ month)
    (toTwelve : month ≤ 12) :
    (⟨year, month, 1⟩ : NaiveDate).IsValid := by
  have step := firstOfMonth_succ (12 * year + (month - 1))
  have next : 12 * year + ((month : Int) - 1) + 1 = 12 * year + month := by
    omega
  rw [next] at step
  refine ⟨fromOne, toTwelve, le_rfl, ?_⟩
  rw [number_first]
  dsimp only
  omega

theorem fromYmdOpt_of_isValid (isValid : date.IsValid) :
    fromYmdOpt date.year date.month date.day = some next ↔
      IsDay date.number ∧ date = next := by
  unfold fromYmdOpt
  dsimp only
  split
  · rename_i found
    simp [found.2]
  · rename_i missing
    simp only [reduceCtorEq, false_iff, not_and]
    intro isDay
    exact absurd ⟨isValid, isDay⟩ missing

/-- The first day of a month is a date, unless the library has no such
date. -/
theorem fromYmdOpt_first (year : Int) {month : Nat} (fromOne : 1 ≤ month)
    (toTwelve : month ≤ 12) :
    fromYmdOpt year month 1 = some next ↔
      IsDay (firstOfMonth (12 * year + (month - 1))) ∧
        .ofNumber (firstOfMonth (12 * year + (month - 1))) = next := by
  have isValid := isValid_first year fromOne toTwelve
  rw [← number_first, NaiveDate.ofNumber_number isValid]
  exact fromYmdOpt_of_isValid isValid

theorem nextMonth_eq_some_iff (isValid : date.IsValid) :
    nextMonth date.year date.month = some next ↔
      IsDay (firstOfMonth (monthNumber date + 1)) ∧
        .ofNumber (firstOfMonth (monthNumber date + 1)) = next := by
  obtain ⟨fromOne, toTwelve, -⟩ := isValid
  unfold nextMonth monthNumber
  split
  · rename_i isLast
    have same : 12 * date.year + ((date.month : Int) - 1) + 1 =
        12 * (date.year + 1) + (((1 : Nat) : Int) - 1) := by
      omega
    rw [same]
    exact fromYmdOpt_first _ le_rfl (by omega)
  · have same : 12 * date.year + ((date.month : Int) - 1) + 1 =
        12 * date.year + (((date.month + 1 : Nat) : Int) - 1) := by
      omega
    rw [same]
    exact fromYmdOpt_first _ (by omega) (by omega)

theorem previousMonth_eq_some_iff (isValid : date.IsValid) :
    previousMonth date.year date.month = some next ↔
      IsDay (firstOfMonth (monthNumber date - 1)) ∧
        .ofNumber (firstOfMonth (monthNumber date - 1)) = next := by
  obtain ⟨fromOne, toTwelve, -⟩ := isValid
  unfold previousMonth monthNumber
  split
  · rename_i isFirst
    have same : 12 * date.year + ((date.month : Int) - 1) - 1 =
        12 * (date.year - 1) + (((12 : Nat) : Int) - 1) := by
      omega
    rw [same]
    exact fromYmdOpt_first _ (by omega) le_rfl
  · have same : 12 * date.year + ((date.month : Int) - 1) - 1 =
        12 * date.year + (((date.month - 1 : Nat) : Int) - 1) := by
      omega
    rw [same]
    exact fromYmdOpt_first _ (by omega) (by omega)

/-- The start of a day, in whichever words a panic names it. -/
theorem startOf_eq_ok_iff {message : String} (isDay : IsDay day) :
    startOf message (.ofNumber day) clock = .ok instant ↔
      ResolvesTo clock (day * dayLength) instant := by
  have midnight : andHmsOpt (.ofNumber day) 0 0 = some (day * dayLength) := by
    simp [andHmsOpt, NaiveDate.number_ofNumber]
  rw [← resolveLocalDatetime_eq_ok_iff (isDay_iff.mp isDay), startOf, midnight]
  exact expectOk_eq_ok_iff

/-- What starts a day is on that day. -/
theorem ResolvesTo.localDay_eq
    (resolves : ResolvesTo clock (day * dayLength) instant) :
    localDay clock instant = day := by
  have bounds := resolves.read_bounds
  rw [minuteLength] at bounds
  rw [localDay, dayLength]
  rw [dayLength] at bounds
  omega

/-- The delivery of a date is the resolution of the delivery minute. -/
theorem deliveryOn_eq_ok_iff {deliveryMinute : Int} (isValid : date.IsValid) :
    deliveryOn date deliveryMinute clock = .ok instant ↔
      (0 ≤ deliveryMinute ∧ deliveryMinute < 24 * 60) ∧
        IsDay date.number ∧ ResolvesTo clock (date.number * dayLength +
          deliveryMinute * minuteLength) instant := by
  unfold deliveryOn localDeliveryDatetime validateDeliveryMinute
  split
  · rename_i within
    have clockTime : andHmsOpt date (deliveryMinute / 60)
        (deliveryMinute % 60) = some (date.number * dayLength +
          deliveryMinute * minuteLength) := by
      rw [andHmsOpt, if_pos (by omega), Int.ediv_mul_add_emod]
    have valid (isDay : IsDay date.number) : date.number * dayLength +
        deliveryMinute * minuteLength ∈ representable := by
      refine representable_of_day isDay ?_ ?_ <;>
        rw [dayLength, minuteLength] <;> omega
    change (expectSome "valid date" _ >>= _) = _ ↔ _
    simp only [bind_eq_ok_iff, expectSome_eq_ok_iff, within, true_and,
      fromYmdOpt_of_isValid isValid, and_assoc, exists_and_left,
      exists_eq_left', clockTime, Option.some.injEq]
    exact and_congr_right fun isDay =>
      resolveLocalDatetime_eq_ok_iff (valid isDay)
  · rename_i outside
    simp only [outside, false_and, iff_false]
    rintro ⟨⟩

end Calendar

end Schedules

end ZaloBot
