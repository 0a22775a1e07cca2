import ZaloBot.ScheduleInstants

/-!
# The deliveries around an instant

`next_delivery` and `latest_delivery` step from the delivery of the current
local date by days, weeks or months.  They read the date that they step from
off the delivery itself, which a gap of the clock may have carried past
midnight.  The deliveries that they find are the ones around the instant
unless such a gap, or a fold that the clock is in, comes between.
-/

namespace ZaloBot

namespace Schedules

open CivilDates
open Conversation (NaiveDate ZoneClocks localDay dayLength)

/-- The instant at which a day's delivery is made. -/
def DeliversAt (clock : WallClock) (deliveryMinute day : Int)
    (instant : Timestamp) : Prop :=
  IsDay day ∧
    ResolvesTo clock (day * dayLength + deliveryMinute * minuteLength) instant

/-- The days of a schedule: all days, Mondays, or first days of months. -/
def IsDeliveryDay : Frequency → Int → Prop
  | .daily, _ => True
  | .weekly, day => mondayOf day = day
  | .monthly, day => firstOfMonth (monthOf day) = day

/-- A delivery of the schedule. -/
def IsDelivery (clock : WallClock) (frequency : Frequency)
    (deliveryMinute : Int) (instant : Timestamp) : Prop :=
  ∃ day, IsDeliveryDay frequency day ∧
    DeliversAt clock deliveryMinute day instant

/-- The instants are the deliveries next to the given one: the last that is
not after it and the first that is. -/
structure Brackets (clock : WallClock) (frequency : Frequency)
    (deliveryMinute : Int) (latest now next : Timestamp) : Prop where
  latestDelivers : IsDelivery clock frequency deliveryMinute latest
  nextDelivers : IsDelivery clock frequency deliveryMinute next
  passed : latest ≤ now
  ahead : now < next
  between : ∀ instant, IsDelivery clock frequency deliveryMinute instant →
    ¬ (latest < instant ∧ instant < next)

section Conditions

variable (clock : WallClock) (deliveryMinute day : Int) (now : Timestamp)

/-- The local time of a day's delivery: the delivery minute, or what stands for
it where the clock skips it. -/
def DeliveryTime (time : Int) : Prop :=
  IsDay day ∧
    StandsFor clock (day * dayLength + deliveryMinute * minuteLength) time

/-- The day has a delivery: not all that may stand for the delivery minute is
skipped. -/
def HasDelivery : Prop :=
  ∃ time, DeliveryTime clock deliveryMinute day time

/-- A gap carries the day's delivery past midnight. -/
def CarriedPastMidnight : Prop :=
  ∃ time, DeliveryTime clock deliveryMinute day time ∧
    (day + 1) * dayLength ≤ time

/-- The clock has shown a time by an instant. -/
def HasShown (time : Int) : Prop :=
  ∃ instant ∈ representable, instant ≤ now ∧ clock.read instant = time

/-- The clock has shown the time of the day's delivery. -/
def Made : Prop :=
  ∃ time, DeliveryTime clock deliveryMinute day time ∧ HasShown clock now time

/-- The clock has yet to show the time of the day's delivery. -/
def Pending : Prop :=
  ∃ time, DeliveryTime clock deliveryMinute day time ∧
    ¬ HasShown clock now time

/-- No gap or fold comes between the instant and the deliveries next to it.

Daily: a gap does not carry yesterday's delivery into today, behind the
instant, and no fold has brought back today after tomorrow's delivery time; if
a gap carries today's delivery into tomorrow, it has been made, and tomorrow
has none.  Weekly: on a Monday with its delivery on that day there is nothing
to ask; a Sunday's delivery that is carried into Monday is followed by that
Monday's before the instant; on other days this Monday's delivery has been
made, and no fold has brought back this week after the next Monday's.  Monthly:
no fold has brought back this month after the next one's delivery time. -/
def KeepsSchedule (frequency : Frequency) : Prop :=
  let today := localDay clock now
  let carried := CarriedPastMidnight clock deliveryMinute today
  let made day := Made clock deliveryMinute day now
  match frequency with
  | .daily =>
      (carried → made today ∧
        ¬ HasDelivery clock deliveryMinute (today + 1) ∧
          ¬ made (today + 2)) ∧
      (¬ carried → ¬ Pending clock deliveryMinute (today - 1) now ∧
        ¬ made (today + 1))
  | .weekly =>
      let monday := mondayOf today
      (today = monday ∧ ¬ carried) ∨
      (today = monday + 6 ∧ carried ∧ made (monday + 7)) ∨
      (¬ (today = monday + 6 ∧ carried) ∧ made monday ∧
        ¬ made (monday + 7))
  | .monthly => ¬ made (firstOfMonth (monthOf today + 1))

end Conditions

section Deliveries

variable {clock : WallClock} {frequency : Frequency}
variable {deliveryMinute day other : Int}
variable {instant now latest next : Timestamp}

namespace DeliversAt

theorem exists_time (delivers : DeliversAt clock deliveryMinute day instant) :
    ∃ time, DeliveryTime clock deliveryMinute day time ∧
      clock.FirstShows representable time instant := by
  obtain ⟨isDay, time, stands, first⟩ := delivers
  exact ⟨time, ⟨isDay, stands⟩, first⟩

theorem unique (first : DeliversAt clock deliveryMinute day instant)
    (second : DeliversAt clock deliveryMinute day other) : instant = other :=
  first.2.unique second.2

theorem read_bounds (delivers : DeliversAt clock deliveryMinute day instant) :
    day * dayLength + deliveryMinute * minuteLength ≤ clock.read instant ∧
      clock.read instant ≤ day * dayLength +
        deliveryMinute * minuteLength + 180 * minuteLength :=
  delivers.2.read_bounds

/-- A delivery is made on its day or in the first hours of the next. -/
theorem localDay_bounds (within : 0 ≤ deliveryMinute ∧
      deliveryMinute < 24 * 60)
    (delivers : DeliversAt clock deliveryMinute day instant) :
    day ≤ localDay clock instant ∧ localDay clock instant ≤ day + 1 := by
  have bounds := delivers.read_bounds
  rw [minuteLength, dayLength] at bounds
  rw [localDay, dayLength]
  omega

/-- The date of a delivery is one of the library. -/
theorem isDay_localDay (within : 0 ≤ deliveryMinute ∧
      deliveryMinute < 24 * 60)
    (delivers : DeliversAt clock deliveryMinute day instant) :
    IsDay (localDay clock instant) := by
  obtain ⟨isDay, time, stands, -, shown, -⟩ := delivers
  rw [isDay_localDay_iff, shown]
  refine stands.representable (representable_of_day isDay ?_ ?_) <;>
    rw [dayLength, minuteLength] <;> omega

/-- Different days have different deliveries. -/
theorem day_unique (first : DeliversAt clock deliveryMinute day instant)
    (second : DeliversAt clock deliveryMinute other instant) :
    day = other := by
  have firstBounds := first.read_bounds
  have secondBounds := second.read_bounds
  rw [minuteLength, dayLength] at firstBounds secondBounds
  omega

/-- A clock without disorder makes the deliveries in the order of their
days. -/
theorem lt_of_lt (steady : clock.Steady representable dayLength)
    (first : DeliversAt clock deliveryMinute day instant)
    (second : DeliversAt clock deliveryMinute other next)
    (before : day < other) : instant < next := by
  obtain ⟨time, ⟨-, stands⟩, shown⟩ := first.exists_time
  obtain ⟨later, ⟨-, standsLater⟩, shownLater⟩ := second.exists_time
  refine steady.inOrder time later _ _ ?_ shown shownLater
  have bounds := stands.bounds
  have laterBounds := standsLater.bounds
  rw [minuteLength, dayLength] at bounds laterBounds
  omega

/-- A delivery of the day before yesterday, or earlier, has been made. -/
theorem le_of_before (steady : clock.Steady representable dayLength)
    (within : 0 ≤ deliveryMinute ∧ deliveryMinute < 24 * 60)
    (valid : now ∈ representable)
    (delivers : DeliversAt clock deliveryMinute day instant)
    (before : day + 2 ≤ localDay clock now) : instant ≤ now := by
  obtain ⟨time, ⟨-, stands⟩, shown⟩ := delivers.exists_time
  obtain ⟨first, firstShown⟩ :=
    WallClock.Shows.exists_first ⟨now, valid, rfl⟩
  have earlier : time < clock.read now := by
    have bounds := stands.bounds
    rw [localDay] at before
    rw [minuteLength, dayLength] at bounds
    rw [dayLength] at before
    omega
  have inOrder := steady.inOrder _ _ _ _ earlier shown firstShown
  exact le_trans (le_of_lt inOrder) (firstShown.2.2 now valid rfl)

/-- A delivery of the day after tomorrow, or later, is ahead. -/
theorem lt_of_behind (steady : clock.Steady representable dayLength)
    (within : 0 ≤ deliveryMinute ∧ deliveryMinute < 24 * 60)
    (valid : now ∈ representable)
    (delivers : DeliversAt clock deliveryMinute day instant)
    (behind : localDay clock now + 2 ≤ day) : now < instant := by
  by_contra notAhead
  have setBack := steady.setBack instant delivers.2.mem now valid
    (not_lt.mp notAhead)
  have bounds := delivers.read_bounds
  rw [localDay] at behind
  rw [minuteLength, dayLength] at bounds
  rw [dayLength] at behind setBack
  omega

/-- A delivery has been made once its instant is reached. -/
theorem made_iff (delivers : DeliversAt clock deliveryMinute day instant) :
    Made clock deliveryMinute day now ↔ instant ≤ now := by
  obtain ⟨time, isTime, shown⟩ := delivers.exists_time
  constructor
  · rintro ⟨other, isOther, earlier, inRange, passed, reads⟩
    rw [← isTime.2.unique isOther.2] at reads
    exact le_trans (shown.2.2 earlier inRange reads) passed
  · intro passed
    exact ⟨time, isTime, instant, shown.1, passed, shown.2.1⟩

/-- A delivery is pending until its instant is reached. -/
theorem pending_iff (delivers : DeliversAt clock deliveryMinute day instant) :
    Pending clock deliveryMinute day now ↔ now < instant := by
  obtain ⟨time, isTime, shown⟩ := delivers.exists_time
  rw [← not_le, ← delivers.made_iff]
  constructor
  · rintro ⟨other, isOther, notShown⟩ ⟨same, isSame, shown⟩
    rw [isSame.2.unique isOther.2] at shown
    exact notShown shown
  · intro notMade
    exact ⟨time, isTime, fun shown => notMade ⟨time, isTime, shown⟩⟩

/-- A delivery that is carried past midnight is made on the next day. -/
theorem carried_iff (within : 0 ≤ deliveryMinute ∧ deliveryMinute < 24 * 60)
    (delivers : DeliversAt clock deliveryMinute day instant) :
    CarriedPastMidnight clock deliveryMinute day ↔
      localDay clock instant = day + 1 := by
  have days := delivers.localDay_bounds within
  obtain ⟨time, isTime, shown⟩ := delivers.exists_time
  have nextDay : localDay clock instant = day + 1 ↔
      (day + 1) * dayLength ≤ time := by
    rw [localDay, shown.2.1, dayLength] at days ⊢
    omega
  rw [nextDay]
  constructor
  · rintro ⟨other, isOther, carried⟩
    rw [isTime.2.unique isOther.2]
    exact carried
  · intro carried
    exact ⟨time, isTime, carried⟩

end DeliversAt

theorem HasDelivery.exists_delivers
    (has : HasDelivery clock deliveryMinute day) :
    ∃ instant, DeliversAt clock deliveryMinute day instant := by
  obtain ⟨time, isDay, stands⟩ := has
  obtain ⟨instant, resolves, -⟩ := stands.exists_resolvesTo
  exact ⟨instant, isDay, resolves⟩

theorem Made.exists_delivers (made : Made clock deliveryMinute day now) :
    ∃ instant, DeliversAt clock deliveryMinute day instant ∧
      instant ≤ now := by
  obtain ⟨time, isTime, -⟩ := id made
  obtain ⟨instant, delivers⟩ := HasDelivery.exists_delivers ⟨time, isTime⟩
  exact ⟨instant, delivers, delivers.made_iff.mp made⟩

theorem Pending.exists_delivers
    (pending : Pending clock deliveryMinute day now) :
    ∃ instant, DeliversAt clock deliveryMinute day instant ∧
      now < instant := by
  obtain ⟨time, isTime, -⟩ := id pending
  obtain ⟨instant, delivers⟩ := HasDelivery.exists_delivers ⟨time, isTime⟩
  exact ⟨instant, delivers, delivers.pending_iff.mp pending⟩

/-- Deliveries of two days of the schedule lie around the instant if no day
between them has one. -/
theorem brackets_of_days (steady : clock.Steady representable dayLength)
    {before behind : Int}
    (latestDelivers : DeliversAt clock deliveryMinute before latest)
    (nextDelivers : DeliversAt clock deliveryMinute behind next)
    (isBefore : IsDeliveryDay frequency before)
    (isBehind : IsDeliveryDay frequency behind)
    (none : ∀ day, IsDeliveryDay frequency day → before < day →
      day < behind → ¬ HasDelivery clock deliveryMinute day)
    (passed : latest ≤ now) (ahead : now < next) :
    Brackets clock frequency deliveryMinute latest now next where
  latestDelivers := ⟨before, isBefore, latestDelivers⟩
  nextDelivers := ⟨behind, isBehind, nextDelivers⟩
  passed := passed
  ahead := ahead
  between := by
    rintro instant ⟨day, isDay, delivers⟩ ⟨above, below⟩
    rcases lt_trichotomy day before with earlier | same | later
    · exact lt_asymm above (delivers.lt_of_lt steady latestDelivers earlier)
    · subst same
      exact absurd (latestDelivers.unique delivers) (ne_of_lt above)
    rcases lt_trichotomy day behind with inside | same | beyond
    · obtain ⟨time, isTime, -⟩ := delivers.exists_time
      exact none day isDay later inside ⟨time, isTime⟩
    · subst same
      exact absurd (delivers.unique nextDelivers) (ne_of_lt below)
    · exact lt_asymm below (nextDelivers.lt_of_lt steady delivers beyond)

end Deliveries

section Steps

variable {clock : WallClock} {deliveryMinute day days : Int}
variable {instant now : Timestamp} {date : NaiveDate}
variable (within : 0 ≤ deliveryMinute ∧ deliveryMinute < 24 * 60)
include within

theorem deliveryOn_ofNumber :
    deliveryOn (.ofNumber day) deliveryMinute clock = .ok instant ↔
      DeliversAt clock deliveryMinute day instant := by
  rw [deliveryOn_eq_ok_iff (isValid_ofNumber day), NaiveDate.number_ofNumber]
  exact and_iff_right within

section Bind

variable {from_ : Int} {delivery result : Timestamp}
variable {rest : Timestamp → Calculation Timestamp}
variable (delivers : DeliversAt clock deliveryMinute from_ delivery)
include delivers

/-- A step from the date of a delivery to a later date. -/
theorem stepForward_bind_eq_ok_iff :
    (do
      let date ← dateNaive clock delivery
      let shifted ← addDays date days
      let candidate ← deliveryOn shifted deliveryMinute clock
      rest candidate) = .ok result ↔
      ∃ candidate, DeliversAt clock deliveryMinute
        (localDay clock delivery + days) candidate ∧
          rest candidate = .ok result := by
  simp only [bind_eq_ok_iff, dateNaive_eq_ok_iff,
    delivers.isDay_localDay within, true_and, exists_eq_left',
    addDays_eq_ok_iff, number_localDate, and_assoc, exists_and_left,
    deliveryOn_ofNumber within, and_iff_right_iff_imp]
  rintro ⟨candidate, ⟨isDay, -⟩, -⟩
  exact isDay

/-- A step from the date of a delivery to an earlier date. -/
theorem stepBack_bind_eq_ok_iff :
    (do
      let date ← dateNaive clock delivery
      let shifted ← subDays date days
      let candidate ← deliveryOn shifted deliveryMinute clock
      rest candidate) = .ok result ↔
      ∃ candidate, DeliversAt clock deliveryMinute
        (localDay clock delivery - days) candidate ∧
          rest candidate = .ok result := by
  simp only [bind_eq_ok_iff, dateNaive_eq_ok_iff,
    delivers.isDay_localDay within, true_and, exists_eq_left',
    subDays_eq_ok_iff, number_localDate, and_assoc, exists_and_left,
    deliveryOn_ofNumber within, and_iff_right_iff_imp]
  rintro ⟨candidate, ⟨isDay, -⟩, -⟩
  exact isDay

theorem stepForward_eq_ok_iff :
    (do
      let date ← dateNaive clock delivery
      let shifted ← addDays date days
      deliveryOn shifted deliveryMinute clock) = .ok result ↔
      DeliversAt clock deliveryMinute (localDay clock delivery + days)
        result := by
  have step := @stepForward_bind_eq_ok_iff _ _ days within _ _ result pure
    delivers
  simpa only [bind_pure, pure_eq_ok_iff, exists_eq_right] using step

theorem stepBack_eq_ok_iff :
    (do
      let date ← dateNaive clock delivery
      let shifted ← subDays date days
      deliveryOn shifted deliveryMinute clock) = .ok result ↔
      DeliversAt clock deliveryMinute (localDay clock delivery - days)
        result := by
  have step := @stepBack_bind_eq_ok_iff _ _ days within _ _ result pure
    delivers
  simpa only [bind_pure, pure_eq_ok_iff, exists_eq_right] using step

end Bind

end Steps

section Validation

variable {clock : WallClock} {deliveryMinute : Int}

theorem validateDeliveryMinute_eq_ok_iff :
    validateDeliveryMinute deliveryMinute = .ok () ↔
      0 ≤ deliveryMinute ∧ deliveryMinute < 24 * 60 := by
  unfold validateDeliveryMinute
  split
  · rename_i inside
    simp only [inside, and_self]
  · rename_i outside
    simp only [reduceCtorEq, outside]

/-- A candidate is kept, or replaced by the delivery of a day. -/
def Settles (clock : WallClock) (deliveryMinute : Int) (kept : Prop)
    (candidate : Timestamp) (day : Int) (result : Timestamp) : Prop :=
  kept ∧ result = candidate ∨
    ¬ kept ∧ DeliversAt clock deliveryMinute day result

end Validation

section Computing

variable {clocks : ZoneClocks} {clock : WallClock} {timezone : String}
variable {deliveryMinute : Int} {now latest next : Timestamp}

theorem settles_iff {kept : Prop} [Decidable kept] {candidate : Timestamp}
    {replaced : Calculation Timestamp} {day : Int} {result : Timestamp}
    (replaces : replaced = .ok result ↔
      DeliversAt clock deliveryMinute day result) :
    (if kept then pure candidate else replaced) = .ok result ↔
      Settles clock deliveryMinute kept candidate day result := by
  unfold Settles
  split
  · rename_i isKept
    simp only [isKept, pure_eq_ok_iff, not_true_eq_false, false_and, or_false,
      true_and]
    exact eq_comm
  · rename_i notKept
    simp only [notKept, replaces, not_false_eq_true, false_and, false_or,
      true_and]

variable (known : parseTimezone clocks timezone = .ok clock)
include known

/-- The calculations begin with the delivery of the current local date. -/
theorem begins_iff
    {rest : WallClock → Timestamp → Calculation Timestamp}
    {result : Timestamp} :
    (do
      validateDeliveryMinute deliveryMinute
      let tz ← parseTimezone clocks timezone
      let candidate ← deliveryOn (localDate tz now) deliveryMinute tz
      rest tz candidate) = .ok result ↔
      (0 ≤ deliveryMinute ∧ deliveryMinute < 24 * 60) ∧
        ∃ candidate, DeliversAt clock deliveryMinute (localDay clock now)
          candidate ∧ rest clock candidate = .ok result := by
  rw [bind_eq_ok_iff]
  constructor
  · rintro ⟨_, validated, continues⟩
    have within := validateDeliveryMinute_eq_ok_iff.mp validated
    rw [bind_eq_ok_iff] at continues
    obtain ⟨tz, isTz, continues⟩ := continues
    rw [known, Except.ok.injEq] at isTz
    subst isTz
    rw [bind_eq_ok_iff] at continues
    obtain ⟨candidate, delivers, continues⟩ := continues
    exact ⟨within, candidate, (deliveryOn_ofNumber within).mp delivers,
      continues⟩
  · rintro ⟨within, candidate, delivers, continues⟩
    refine ⟨(), validateDeliveryMinute_eq_ok_iff.mpr within, ?_⟩
    refine bind_eq_ok_iff.mpr ⟨clock, known, ?_⟩
    exact bind_eq_ok_iff.mpr ⟨candidate,
      (deliveryOn_ofNumber within).mpr delivers, continues⟩

theorem nextDelivery_daily_iff :
    nextDelivery clocks now timezone .daily deliveryMinute = .ok next ↔
      (0 ≤ deliveryMinute ∧ deliveryMinute < 24 * 60) ∧
        ∃ candidate, DeliversAt clock deliveryMinute (localDay clock now)
          candidate ∧ Settles clock deliveryMinute (now < candidate)
            candidate (localDay clock candidate + 1) next := by
  refine (begins_iff known).trans (and_congr_right fun within =>
    exists_congr fun candidate => and_congr_right fun delivers => ?_)
  rw [ite_not]
  exact settles_iff (stepForward_eq_ok_iff within delivers)

theorem latestDelivery_daily_iff :
    latestDelivery clocks now timezone .daily deliveryMinute = .ok latest ↔
      (0 ≤ deliveryMinute ∧ deliveryMinute < 24 * 60) ∧
        ∃ candidate, DeliversAt clock deliveryMinute (localDay clock now)
          candidate ∧ Settles clock deliveryMinute (¬ now < candidate)
            candidate (localDay clock candidate - 1) latest := by
  refine (begins_iff known).trans (and_congr_right fun within =>
    exists_congr fun candidate => and_congr_right fun delivers => ?_)
  rw [← ite_not]
  exact settles_iff (stepBack_eq_ok_iff within delivers)

theorem latestDelivery_weekly_iff :
    latestDelivery clocks now timezone .weekly deliveryMinute = .ok latest ↔
      (0 ≤ deliveryMinute ∧ deliveryMinute < 24 * 60) ∧
        ∃ delivery, DeliversAt clock deliveryMinute (localDay clock now)
          delivery ∧ ∃ candidate, DeliversAt clock deliveryMinute
            (mondayOf (localDay clock delivery)) candidate ∧
              Settles clock deliveryMinute (¬ now < candidate) candidate
                (localDay clock candidate - 7) latest := by
  refine (begins_iff known).trans (and_congr_right fun within =>
    exists_congr fun delivery => and_congr_right fun delivers => ?_)
  simp only [numDaysFromMonday, number_localDate]
  rw [stepBack_bind_eq_ok_iff within delivers, ← mondayOf]
  refine exists_congr fun candidate => and_congr_right fun onMonday => ?_
  rw [← ite_not]
  exact settles_iff (stepBack_eq_ok_iff within onMonday)

theorem nextDelivery_weekly_iff :
    nextDelivery clocks now timezone .weekly deliveryMinute = .ok next ↔
      (0 ≤ deliveryMinute ∧ deliveryMinute < 24 * 60) ∧
        ∃ delivery, DeliversAt clock deliveryMinute (localDay clock now)
          delivery ∧ ∃ candidate, Settles clock deliveryMinute
            (mondayOf (localDay clock delivery) = localDay clock delivery)
            delivery (mondayOf (localDay clock delivery) + 7) candidate ∧
              Settles clock deliveryMinute (now < candidate) candidate
                (localDay clock candidate + 7) next := by
  refine (begins_iff known).trans (and_congr_right fun within =>
    exists_congr fun delivery => and_congr_right fun delivers => ?_)
  have steps {from_ : Int} {candidate : Timestamp}
      (onDay : DeliversAt clock deliveryMinute from_ candidate) :
      (if ¬ now < candidate then do
        let date ← dateNaive clock candidate
        let shifted ← addDays date 7
        deliveryOn shifted deliveryMinute clock
      else pure candidate) = .ok next ↔
        Settles clock deliveryMinute (now < candidate) candidate
          (localDay clock candidate + 7) next := by
    rw [ite_not]
    exact settles_iff (stepForward_eq_ok_iff within onDay)
  have bounds := weekday_bounds (localDay clock delivery)
  dsimp only [numDaysFromMonday]
  rw [number_localDate]
  by_cases arrived : mondayOf (localDay clock delivery) =
      localDay clock delivery
  · have waits : ¬ 0 < (0 - weekday (localDay clock delivery) + 7) % 7 := by
      rw [mondayOf] at arrived
      omega
    simp only [waits, if_false, pure_bind, steps delivers, Settles, arrived,
      true_and, not_true_eq_false, false_and, or_false, exists_eq_left]
  · have waits : 0 < (0 - weekday (localDay clock delivery) + 7) % 7 := by
      rw [mondayOf] at arrived
      omega
    have reaches : localDay clock delivery +
        (0 - weekday (localDay clock delivery) + 7) % 7 =
          mondayOf (localDay clock delivery) + 7 := by
      rw [mondayOf] at arrived ⊢
      omega
    simp only [waits, if_true]
    rw [stepForward_bind_eq_ok_iff within delivers, reaches]
    refine exists_congr fun candidate => ?_
    rw [Settles, and_iff_right arrived, or_iff_right
      (fun kept => arrived kept.1)]
    exact and_congr_right fun onMonday => steps onMonday

omit known

section Months

variable {instant : Timestamp}
variable (within : 0 ≤ deliveryMinute ∧ deliveryMinute < 24 * 60)
include within

theorem deliversAt_first_iff :
    localDeliveryDatetime (localDate clock now).year
      (localDate clock now).month 1 deliveryMinute clock = .ok instant ↔
        DeliversAt clock deliveryMinute
          (firstOfMonth (monthOf (localDay clock now))) instant := by
  obtain ⟨fromOne, toTwelve, -⟩ := isValid_ofNumber (localDay clock now)
  have first := number_first (localDate clock now).year
    (localDate clock now).month
  have isMonth := monthNumber_localDate clock now
  rw [monthNumber] at isMonth
  rw [isMonth] at first
  rw [DeliversAt, ← first]
  exact (deliveryOn_eq_ok_iff
    (isValid_first (localDate clock now).year fromOne toTwelve)).trans
      (and_iff_right within)

/-- The delivery of a month that a boundary gives. -/
theorem deliversAt_boundary_iff {boundary : Option NaiveDate} {month : Int}
    (isBoundary : ∀ date, boundary = some date ↔
      IsDay (firstOfMonth month) ∧ .ofNumber (firstOfMonth month) = date) :
    (do
      let date ← expectSome "valid month boundary" boundary
      deliveryOn date deliveryMinute clock) = .ok instant ↔
        DeliversAt clock deliveryMinute (firstOfMonth month) instant := by
  simp only [bind_eq_ok_iff, expectSome_eq_ok_iff, isBoundary, and_assoc,
    exists_and_left, exists_eq_left', deliveryOn_ofNumber within]
  exact and_iff_right_of_imp And.left

end Months

include known

theorem nextDelivery_monthly_iff :
    nextDelivery clocks now timezone .monthly deliveryMinute = .ok next ↔
      (0 ≤ deliveryMinute ∧ deliveryMinute < 24 * 60) ∧
        ∃ delivery, DeliversAt clock deliveryMinute (localDay clock now)
          delivery ∧ ∃ candidate, DeliversAt clock deliveryMinute
            (firstOfMonth (monthOf (localDay clock now))) candidate ∧
              Settles clock deliveryMinute (now < candidate) candidate
                (firstOfMonth (monthOf (localDay clock now) + 1)) next := by
  refine (begins_iff known).trans (and_congr_right fun within =>
    exists_congr fun delivery => and_congr_right fun _ => ?_)
  rw [bind_eq_ok_iff]
  refine exists_congr fun candidate => and_congr
    (deliversAt_first_iff within) ?_
  rw [ite_not]
  refine settles_iff (deliversAt_boundary_iff within fun date => ?_)
  rw [← monthNumber_localDate]
  exact nextMonth_eq_some_iff (isValid_ofNumber _)

theorem latestDelivery_monthly_iff :
    latestDelivery clocks now timezone .monthly deliveryMinute = .ok latest ↔
      (0 ≤ deliveryMinute ∧ deliveryMinute < 24 * 60) ∧
        ∃ delivery, DeliversAt clock deliveryMinute (localDay clock now)
          delivery ∧ ∃ candidate, DeliversAt clock deliveryMinute
            (firstOfMonth (monthOf (localDay clock now))) candidate ∧
              Settles clock deliveryMinute (¬ now < candidate) candidate
                (firstOfMonth (monthOf (localDay clock now) - 1)) latest := by
  refine (begins_iff known).trans (and_congr_right fun within =>
    exists_congr fun delivery => and_congr_right fun _ => ?_)
  rw [bind_eq_ok_iff]
  refine exists_congr fun candidate => and_congr
    (deliversAt_first_iff within) ?_
  rw [← ite_not]
  refine settles_iff (deliversAt_boundary_iff within fun date => ?_)
  rw [← monthNumber_localDate]
  exact previousMonth_eq_some_iff (isValid_ofNumber _)

end Computing

section Surrounding

variable {clock : WallClock} {deliveryMinute month : Int}
variable {now candidate latest next : Timestamp}

theorem Settles.of_kept {kept : Prop} {day : Int} {result : Timestamp}
    (settles : Settles clock deliveryMinute kept candidate day result)
    (isKept : kept) : result = candidate :=
  settles.elim And.right fun replaced => absurd isKept replaced.1

theorem Settles.of_replaced {kept : Prop} {day : Int} {result : Timestamp}
    (settles : Settles clock deliveryMinute kept candidate day result)
    (notKept : ¬ kept) : DeliversAt clock deliveryMinute day result :=
  settles.elim (fun keeps => absurd keeps.1 notKept) And.right

section Searches

variable (steady : clock.Steady representable dayLength)
include steady

section Days

variable (delivers : DeliversAt clock deliveryMinute (localDay clock now)
    candidate)
  (latestSettles : Settles clock deliveryMinute (¬ now < candidate)
    candidate (localDay clock candidate - 1) latest)
  (nextSettles : Settles clock deliveryMinute (now < candidate) candidate
    (localDay clock candidate + 1) next)
include delivers latestSettles nextSettles

/-- The daily deliveries, when a gap carries today's into tomorrow. -/
theorem brackets_daily_carried
    (moved : localDay clock candidate = localDay clock now + 1) :
    Brackets clock .daily deliveryMinute latest now next ↔
      Made clock deliveryMinute (localDay clock now) now ∧
        ¬ HasDelivery clock deliveryMinute (localDay clock now + 1) ∧
          ¬ Made clock deliveryMinute (localDay clock now + 2) now := by
  have before : localDay clock candidate - 1 = localDay clock now := by
    omega
  have behind : localDay clock candidate + 1 = localDay clock now + 2 := by
    omega
  rw [before] at latestSettles
  rw [behind] at nextSettles
  rw [delivers.made_iff]
  by_cases ahead : now < candidate
  · have isLatest := (latestSettles.of_replaced (not_not.mpr ahead)).unique
      delivers
    constructor
    · intro brackets
      have passed := brackets.passed
      rw [isLatest] at passed
      exact absurd ahead (not_lt.mpr passed)
    · rintro ⟨passed, -⟩
      exact absurd ahead (not_lt.mpr passed)
  · have isLatest := latestSettles.of_kept ahead
    have following := nextSettles.of_replaced ahead
    subst isLatest
    rw [following.made_iff, not_le]
    constructor
    · intro brackets
      refine ⟨brackets.passed, fun has => ?_, brackets.ahead⟩
      obtain ⟨instant, between⟩ := has.exists_delivers
      exact brackets.between instant ⟨_, trivial, between⟩
        ⟨delivers.lt_of_lt steady between (by omega),
          between.lt_of_lt steady following (by omega)⟩
    · rintro ⟨passed, none, ahead⟩
      refine brackets_of_days steady delivers following trivial trivial
        (fun day _ above below => ?_) passed ahead
      have isTomorrow : day = localDay clock now + 1 := by
        omega
      subst isTomorrow
      exact none

/-- The daily deliveries, when today's is made today. -/
theorem brackets_daily_kept
    (kept : localDay clock candidate = localDay clock now) :
    Brackets clock .daily deliveryMinute latest now next ↔
      ¬ Pending clock deliveryMinute (localDay clock now - 1) now ∧
        ¬ Made clock deliveryMinute (localDay clock now + 1) now := by
  rw [kept] at latestSettles nextSettles
  have adjacent {before behind : Int} (step : behind = before + 1) (day : Int)
      (_ : IsDeliveryDay .daily day) (above : before < day)
      (below : day < behind) : ¬ HasDelivery clock deliveryMinute day := by
    omega
  by_cases ahead : now < candidate
  · have isNext := nextSettles.of_kept ahead
    have previous := latestSettles.of_replaced (not_not.mpr ahead)
    subst isNext
    rw [previous.pending_iff, not_lt]
    constructor
    · intro brackets
      refine ⟨brackets.passed, fun made => ?_⟩
      obtain ⟨instant, following, passed⟩ := made.exists_delivers
      exact absurd (lt_trans ahead
        (delivers.lt_of_lt steady following (by omega))) (not_lt.mpr passed)
    · rintro ⟨passed, -⟩
      exact brackets_of_days steady previous delivers trivial trivial
        (adjacent (by omega)) passed ahead
  · have isLatest := latestSettles.of_kept ahead
    have following := nextSettles.of_replaced ahead
    subst isLatest
    rw [following.made_iff, not_le]
    constructor
    · intro brackets
      refine ⟨fun pending => ?_, brackets.ahead⟩
      obtain ⟨instant, previous, waits⟩ := pending.exists_delivers
      exact ahead (lt_trans waits
        (previous.lt_of_lt steady delivers (by omega)))
    · rintro ⟨-, after⟩
      exact brackets_of_days steady delivers following trivial trivial
        (adjacent rfl) (not_lt.mp ahead) after

theorem keepsSchedule_daily_iff
    (within : 0 ≤ deliveryMinute ∧ deliveryMinute < 24 * 60) :
    Brackets clock .daily deliveryMinute latest now next ↔
      KeepsSchedule clock deliveryMinute now .daily := by
  have days := delivers.localDay_bounds within
  have carries := delivers.carried_iff within
  dsimp only [KeepsSchedule]
  rw [carries]
  by_cases moved : localDay clock candidate = localDay clock now + 1
  · rw [brackets_daily_carried steady delivers latestSettles
      nextSettles moved]
    simp only [moved, true_implies, not_true_eq_false, false_implies, and_true]
  · have kept : localDay clock candidate = localDay clock now := by
      omega
    rw [brackets_daily_kept steady delivers latestSettles nextSettles
      kept]
    simp only [moved, false_implies, not_false_eq_true, true_implies,
      true_and]

end Days

/-- The monthly deliveries. -/
theorem keepsSchedule_monthly_iff
    (within : 0 ≤ deliveryMinute ∧ deliveryMinute < 24 * 60)
    (valid : now ∈ representable)
    (delivers : DeliversAt clock deliveryMinute
      (firstOfMonth (monthOf (localDay clock now))) candidate)
    (latestSettles : Settles clock deliveryMinute (¬ now < candidate)
      candidate (firstOfMonth (monthOf (localDay clock now) - 1)) latest)
    (nextSettles : Settles clock deliveryMinute (now < candidate) candidate
      (firstOfMonth (monthOf (localDay clock now) + 1)) next) :
    Brackets clock .monthly deliveryMinute latest now next ↔
      KeepsSchedule clock deliveryMinute now .monthly := by
  have bounds := monthOf_bounds (localDay clock now)
  have lengths := firstOfMonth_succ (monthOf (localDay clock now) - 1)
  rw [sub_add_cancel] at lengths
  have isFirst (month : Int) :
      IsDeliveryDay .monthly (firstOfMonth month) := by
    rw [IsDeliveryDay, monthOf_firstOfMonth]
  have adjacent {month following : Int} (step : following = month + 1)
      (day : Int) (isDay : IsDeliveryDay .monthly day)
      (above : firstOfMonth month < day)
      (below : day < firstOfMonth following) :
      ¬ HasDelivery clock deliveryMinute day := by
    rw [IsDeliveryDay] at isDay
    rw [← isDay] at above below
    have low := firstOfMonth_strictMono.lt_iff_lt.mp above
    have high := firstOfMonth_strictMono.lt_iff_lt.mp below
    omega
  dsimp only [KeepsSchedule]
  by_cases ahead : now < candidate
  · have previous := latestSettles.of_replaced (not_not.mpr ahead)
    have isNext := nextSettles.of_kept ahead
    subst isNext
    have passed := previous.le_of_before steady within valid (by omega)
    refine iff_of_true (brackets_of_days steady previous delivers (isFirst _)
      (isFirst _) (adjacent (by omega)) passed ahead) fun made => ?_
    obtain ⟨instant, following, reached⟩ := made.exists_delivers
    exact absurd (lt_trans ahead
      (delivers.lt_of_lt steady following (by omega))) (not_lt.mpr reached)
  · have isLatest := latestSettles.of_kept ahead
    have following := nextSettles.of_replaced ahead
    subst isLatest
    rw [following.made_iff, not_le]
    constructor
    · exact Brackets.ahead
    · exact brackets_of_days steady delivers following (isFirst _) (isFirst _)
        (adjacent rfl) (not_lt.mp ahead)

section Weeks

variable {delivery thisWeek : Timestamp}

omit steady in
/-- A delivery of the schedule is made for a Monday. -/
theorem IsDelivery.monday {day : Int} {instant : Timestamp}
    (isDelivery : IsDelivery clock .weekly deliveryMinute instant)
    (delivers : DeliversAt clock deliveryMinute day instant) :
    mondayOf day = day := by
  obtain ⟨monday, isMonday, onMonday⟩ := isDelivery
  rw [delivers.day_unique onMonday]
  exact isMonday

omit steady in
/-- No Monday lies between two that follow each other. -/
theorem not_monday_between {monday day : Int}
    (isMonday : mondayOf monday = monday) (above : monday < day)
    (below : day < monday + 7) : ¬ IsDeliveryDay .weekly day := by
  rw [IsDeliveryDay, mondayOf_of_bounds isMonday (by omega) (by omega)]
  omega

variable
  (thisWeekDelivers : DeliversAt clock deliveryMinute
    (mondayOf (localDay clock delivery)) thisWeek)
  (latestSettles : Settles clock deliveryMinute (¬ now < thisWeek) thisWeek
    (localDay clock thisWeek - 7) latest)
  (candidateSettles : Settles clock deliveryMinute
    (mondayOf (localDay clock delivery) = localDay clock delivery) delivery
    (mondayOf (localDay clock delivery) + 7) candidate)
  (nextSettles : Settles clock deliveryMinute (now < candidate) candidate
    (localDay clock candidate + 7) next)
include thisWeekDelivers latestSettles candidateSettles nextSettles

/-- The weekly deliveries on a later day, or where a gap
carries the delivery of a Monday into the next day. -/
theorem brackets_weekly_later
    (same : mondayOf (localDay clock delivery) =
      mondayOf (localDay clock now))
    (later : mondayOf (localDay clock now) ≠ localDay clock delivery) :
    Brackets clock .weekly deliveryMinute latest now next ↔
      Made clock deliveryMinute (mondayOf (localDay clock now)) now ∧
        ¬ Made clock deliveryMinute (mondayOf (localDay clock now) + 7)
          now := by
  have isMonday := mondayOf_mondayOf (localDay clock now)
  rw [same] at thisWeekDelivers candidateSettles
  have nextWeek := candidateSettles.of_replaced later
  have inOrder := thisWeekDelivers.lt_of_lt steady nextWeek (by omega)
  have isDelivery : IsDelivery clock .weekly deliveryMinute thisWeek :=
    ⟨_, isMonday, thisWeekDelivers⟩
  have isDeliveryNext : IsDelivery clock .weekly deliveryMinute candidate :=
    ⟨_, mondayOf_add_seven isMonday, nextWeek⟩
  rw [thisWeekDelivers.made_iff, nextWeek.made_iff, not_le]
  constructor
  · intro brackets
    have made : ¬ now < thisWeek := by
      intro ahead
      have isNext := nextSettles.of_kept (lt_trans ahead inOrder)
      subst isNext
      exact brackets.between thisWeek isDelivery
        ⟨lt_of_le_of_lt brackets.passed ahead, inOrder⟩
    refine ⟨not_lt.mp made, ?_⟩
    have isLatest := latestSettles.of_kept made
    subst isLatest
    by_contra passed
    exact brackets.between candidate isDeliveryNext ⟨inOrder,
      lt_of_le_of_lt (not_lt.mp passed) brackets.ahead⟩
  · rintro ⟨passed, ahead⟩
    have isLatest := latestSettles.of_kept (not_lt.mpr passed)
    have isNext := nextSettles.of_kept ahead
    subst isLatest isNext
    refine brackets_of_days steady thisWeekDelivers nextWeek isMonday
      (mondayOf_add_seven isMonday) (fun day isDay above below => ?_) passed
      ahead
    exact absurd isDay (not_monday_between isMonday above below)

variable (within : 0 ≤ deliveryMinute ∧ deliveryMinute < 24 * 60)
  (valid : now ∈ representable)
  (delivers : DeliversAt clock deliveryMinute (localDay clock now) delivery)
include within valid delivers

/-- The weekly deliveries on a Monday whose delivery is made on that day. -/
theorem brackets_weekly_monday
    (isToday : localDay clock now = mondayOf (localDay clock now))
    (kept : localDay clock delivery = localDay clock now) :
    Brackets clock .weekly deliveryMinute latest now next := by
  have isMonday := isToday.symm
  rw [kept, isMonday] at thisWeekDelivers candidateSettles
  have isCandidate := candidateSettles.of_kept rfl
  subst isCandidate
  have same := thisWeekDelivers.unique delivers
  subst same
  rw [kept] at latestSettles nextSettles
  by_cases ahead : now < thisWeek
  · have previous := latestSettles.of_replaced (not_not.mpr ahead)
    have isNext := nextSettles.of_kept ahead
    subst isNext
    refine brackets_of_days steady previous delivers
      (mondayOf_sub_seven isMonday) isMonday
      (fun day isDay above below => ?_)
      (previous.le_of_before steady within valid (by omega)) ahead
    exact absurd isDay (not_monday_between (mondayOf_sub_seven isMonday)
      above (by omega))
  · have isLatest := latestSettles.of_kept ahead
    have following := nextSettles.of_replaced ahead
    subst isLatest
    refine brackets_of_days steady delivers following isMonday
      (mondayOf_add_seven isMonday) (fun day isDay above below => ?_)
      (not_lt.mp ahead) (following.lt_of_behind steady within valid (by omega))
    exact absurd isDay (not_monday_between isMonday above below)

/-- The weekly deliveries on a Sunday whose delivery a gap carries into
Monday. -/
theorem brackets_weekly_sunday
    (isSunday : localDay clock now = mondayOf (localDay clock now) + 6)
    (moved : localDay clock delivery = localDay clock now + 1) :
    Brackets clock .weekly deliveryMinute latest now next ↔
      Made clock deliveryMinute (mondayOf (localDay clock now) + 7) now := by
  have isMonday := mondayOf_add_seven (mondayOf_mondayOf (localDay clock now))
  have onMonday : localDay clock delivery =
      mondayOf (localDay clock now) + 7 := by
    omega
  rw [onMonday, isMonday] at thisWeekDelivers candidateSettles
  have isCandidate := candidateSettles.of_kept rfl
  subst isCandidate
  rw [onMonday] at nextSettles
  rw [thisWeekDelivers.made_iff]
  constructor
  · intro brackets
    by_contra notMade
    have ahead := not_le.mp notMade
    have follows : thisWeek < next := by
      by_cases today : now < candidate
      · have isNext := nextSettles.of_kept today
        subst isNext
        have isDelivered := brackets.nextDelivers.monday delivers
        omega
      · exact thisWeekDelivers.lt_of_lt steady
          (nextSettles.of_replaced today) (by omega)
    exact brackets.between thisWeek ⟨_, isMonday, thisWeekDelivers⟩
      ⟨lt_of_le_of_lt brackets.passed ahead, follows⟩
  · intro passed
    have isLatest := latestSettles.of_kept (not_lt.mpr passed)
    subst isLatest
    have inOrder := delivers.lt_of_lt steady thisWeekDelivers (by omega)
    have following := nextSettles.of_replaced
      (not_lt.mpr (le_of_lt (lt_of_lt_of_le inOrder passed)))
    refine brackets_of_days steady thisWeekDelivers following isMonday
      (mondayOf_add_seven isMonday) (fun day isDay above below => ?_) passed
      (following.lt_of_behind steady within valid (by omega))
    exact absurd isDay (not_monday_between isMonday above below)

theorem keepsSchedule_weekly_iff :
    Brackets clock .weekly deliveryMinute latest now next ↔
      KeepsSchedule clock deliveryMinute now .weekly := by
  have days := delivers.localDay_bounds within
  have carries := delivers.carried_iff within
  have week := mondayOf_bounds (localDay clock now)
  have isMonday := mondayOf_mondayOf (localDay clock now)
  dsimp only [KeepsSchedule]
  rw [carries]
  by_cases sunday : localDay clock now = mondayOf (localDay clock now) + 6 ∧
      localDay clock delivery = localDay clock now + 1
  · obtain ⟨isSunday, moved⟩ := sunday
    have notMonday : localDay clock now ≠ mondayOf (localDay clock now) := by
      omega
    rw [brackets_weekly_sunday steady thisWeekDelivers latestSettles
      candidateSettles nextSettles within valid delivers isSunday moved]
    simp only [notMonday, false_and, false_or, and_iff_right isSunday, moved,
      true_and, not_true_eq_false, or_false]
  have same : mondayOf (localDay clock delivery) =
      mondayOf (localDay clock now) :=
    mondayOf_of_bounds isMonday (by omega) (by omega)
  by_cases today : localDay clock now = mondayOf (localDay clock now) ∧
      ¬ localDay clock delivery = localDay clock now + 1
  · exact iff_of_true (brackets_weekly_monday steady thisWeekDelivers
      latestSettles candidateSettles nextSettles within valid delivers today.1
      (by omega)) (.inl today)
  · rw [brackets_weekly_later steady thisWeekDelivers latestSettles
      candidateSettles nextSettles same (by omega)]
    have notSunday : ¬ (localDay clock now =
        mondayOf (localDay clock now) + 6 ∧
          localDay clock delivery = localDay clock now + 1 ∧
            Made clock deliveryMinute (mondayOf (localDay clock now) + 7)
              now) :=
      fun isSunday => sunday ⟨isSunday.1, isSunday.2.1⟩
    rw [or_iff_right today, or_iff_right notSunday, and_iff_right sunday]

end Weeks

end Searches

end Surrounding

/-- Where both calculations succeed, they find the deliveries around the
instant exactly when no gap or fold of the clock comes between. -/
theorem deliveries_bracket_iff {clocks : ZoneClocks} {clock : WallClock}
    {timezone : String} {frequency : Frequency} {deliveryMinute : Int}
    {now latest next : Timestamp}
    (known : parseTimezone clocks timezone = .ok clock)
    (steady : clock.Steady representable dayLength)
    (valid : now ∈ representable)
    (latestOk : latestDelivery clocks now timezone frequency deliveryMinute =
      .ok latest)
    (nextOk : nextDelivery clocks now timezone frequency deliveryMinute =
      .ok next) :
    Brackets clock frequency deliveryMinute latest now next ↔
      KeepsSchedule clock deliveryMinute now frequency := by
  cases frequency with
  | daily =>
      obtain ⟨within, candidate, delivers, latestSettles⟩ :=
        (latestDelivery_daily_iff known).mp latestOk
      obtain ⟨-, other, otherDelivers, nextSettles⟩ :=
        (nextDelivery_daily_iff known).mp nextOk
      cases otherDelivers.unique delivers
      exact keepsSchedule_daily_iff steady delivers latestSettles
        nextSettles within
  | weekly =>
      obtain ⟨within, delivery, delivers, thisWeek, thisWeekDelivers,
        latestSettles⟩ := (latestDelivery_weekly_iff known).mp latestOk
      obtain ⟨-, other, otherDelivers, candidate, candidateSettles,
        nextSettles⟩ := (nextDelivery_weekly_iff known).mp nextOk
      cases otherDelivers.unique delivers
      exact keepsSchedule_weekly_iff steady thisWeekDelivers latestSettles
        candidateSettles nextSettles within valid delivers
  | monthly =>
      obtain ⟨within, -, -, candidate, delivers, latestSettles⟩ :=
        (latestDelivery_monthly_iff known).mp latestOk
      obtain ⟨-, -, -, other, otherDelivers, nextSettles⟩ :=
        (nextDelivery_monthly_iff known).mp nextOk
      cases otherDelivers.unique delivers
      exact keepsSchedule_monthly_iff steady within valid delivers
        latestSettles nextSettles

section Samples

/-- Greenland in 2024, from before the change to daylight saving time on the
30th of March at 23:00 local time. -/
def nuukClock : WallClock :=
  .ofSpans (-7200000000) [(1711846800000000, -3600000000)]

def nuukOnly : ZoneClocks := fun name =>
  if name = "America/Nuuk" then some nuukClock else none

theorem nuukClock_read (instant : Int) :
    nuukClock.read instant =
      if 1711846800000000 ≤ instant then instant - 3600000000
      else instant - 7200000000 := by
  have offset : nuukClock.offset instant =
      if 1711846800000000 ≤ instant then -3600000000
      else -7200000000 := rfl
  rw [WallClock.read, offset]
  split <;> omega

theorem nuukClock_steady : nuukClock.Steady representable dayLength := by
  refine WallClock.steady_of_strictMono (fun earlier later before => ?_)
    (by decide)
  rw [nuukClock_read, nuukClock_read]
  split <;> split <;> omega

/-- The time of the delivery at 23:30 on the 30th of March, which the clock
skips, is 00:30 on the 31st. -/
theorem nuukClock_carries :
    DeliveryTime nuukClock 1410 19812 1711845000000000 := by
  refine ⟨by decide, standsFor_hour ?_ (by decide)
    ⟨1711848600000000, by decide, by decide⟩⟩
  rintro ⟨instant, -, shown⟩
  rw [nuukClock_read, dayLength, minuteLength] at shown
  split at shown <;> omega

/-- On the 31st of March at noon the latest delivery is the one that was
carried past midnight. -/
theorem deliveries_bracket_after_gap :
    Brackets nuukClock .daily 1410 1711848600000000 1711890000000000
      1711931400000000 := by
  refine (deliveries_bracket_iff
    (rfl : parseTimezone nuukOnly "America/Nuuk" = .ok nuukClock)
    nuukClock_steady (by decide) (by decide) (by decide)).mpr ?_
  have today : localDay nuukClock 1711890000000000 = 19813 := by
    decide
  have isTime : DeliveryTime nuukClock 1410 19813 1711927800000000 :=
    ⟨by decide, standsFor_self ⟨1711931400000000, by decide, by decide⟩⟩
  dsimp only [KeepsSchedule]
  rw [today]
  refine ⟨fun carried => ?_, fun _ => ⟨fun pending => ?_, fun made => ?_⟩⟩
  · obtain ⟨time, isOther, past⟩ := carried
    rw [← isTime.2.unique isOther.2] at past
    exact absurd past (by decide)
  · obtain ⟨time, isOther, notShown⟩ := pending
    rw [← nuukClock_carries.2.unique isOther.2] at notShown
    exact notShown ⟨1711848600000000, by decide, by decide, by decide⟩
  · obtain ⟨time, isTomorrow, instant, -, passed, shown⟩ := made
    have bounds := isTomorrow.2.bounds
    rw [← shown, nuukClock_read, dayLength, minuteLength] at bounds
    split at bounds <;> omega

/-- On the 30th of March at noon the latest delivery at 23:30 is still
ahead. -/
theorem latest_delivery_is_ahead :
    ∃ latest next,
      latestDelivery nuukOnly 1711807200000000 "America/Nuuk" .daily 1410 =
        .ok latest ∧
      nextDelivery nuukOnly 1711807200000000 "America/Nuuk" .daily 1410 =
        .ok next ∧
      ¬ Brackets nuukClock .daily 1410 latest 1711807200000000 next :=
  ⟨1711848600000000, 1711848600000000, by decide, by decide,
    fun brackets => absurd brackets.passed (by decide)⟩

end Samples

end Schedules

end ZaloBot
