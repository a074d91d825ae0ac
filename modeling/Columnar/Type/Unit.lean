/-!
# Units of temporal types

A `TimeUnit` is the resolution of a date, time, timestamp or duration; an `IntervalUnit`
is the layout of a calendar interval. Format strings name a time unit by one character
(days have none) and an interval unit by one character; an interval value occupies 1, 2 or
4 little-endian 32-bit words.
-/

namespace Columnar

/-- The resolution of a temporal value. -/
inductive TimeUnit where
  | seconds
  | milliseconds
  | microseconds
  | nanoseconds
  | days
  deriving DecidableEq, Repr, Inhabited

namespace TimeUnit

/-- The unit's full name, as types display it. -/
def name : TimeUnit → String
  | .seconds => "Seconds"
  | .milliseconds => "Milliseconds"
  | .microseconds => "Microseconds"
  | .nanoseconds => "Nanoseconds"
  | .days => "Days"

/-- The unit's character in format strings; days have none. -/
def formatChar? : TimeUnit → Option Char
  | .seconds => some 's'
  | .milliseconds => some 'm'
  | .microseconds => some 'u'
  | .nanoseconds => some 'n'
  | .days => none

/-- The unit a format character names. -/
def ofFormatChar? : Char → Option TimeUnit
  | 's' => some .seconds
  | 'm' => some .milliseconds
  | 'u' => some .microseconds
  | 'n' => some .nanoseconds
  | _ => none

end TimeUnit

/-- The layout of a calendar interval value. -/
inductive IntervalUnit where
  /-- Months, one word. -/
  | yearMonth
  /-- Days and milliseconds, two words. -/
  | daysTime
  /-- Months, days and nanoseconds, four words. -/
  | monthDayNano
  deriving DecidableEq, Repr, Inhabited

namespace IntervalUnit

/-- The unit's name, as types display it. -/
def name : IntervalUnit → String
  | .yearMonth => "YearMonth"
  | .daysTime => "DaysTime"
  | .monthDayNano => "MonthDaysNs"

/-- The unit's character in format strings. -/
def formatChar : IntervalUnit → Char
  | .yearMonth => 'M'
  | .daysTime => 'D'
  | .monthDayNano => 'n'

/-- The unit a format character names. -/
def ofFormatChar? : Char → Option IntervalUnit
  | 'M' => some .yearMonth
  | 'D' => some .daysTime
  | 'n' => some .monthDayNano
  | _ => none

/-- The number of 32-bit words one value occupies. -/
def words : IntervalUnit → Nat
  | .yearMonth => 1
  | .daysTime => 2
  | .monthDayNano => 4

end IntervalUnit

end Columnar
