import SpecGraph.Text.Numeral

/-!
# Dates and times

A moment is a calendar day, or a day with a time of day and possibly an offset from universal time.
Days, moments without an offset and moments with one are three separate kinds: moments of different
kinds are never equal and cannot be ordered. Two moments with an offset are compared by the instant
they denote.
-/

namespace SpecGraph

/-- A day of the Gregorian calendar. -/
structure Day where
  /-- The year, from 1 to 9999. -/
  year : Nat
  /-- The month, from 1 to 12. -/
  month : Nat
  /-- The day of the month, from 1. -/
  day : Nat
deriving DecidableEq, Inhabited

/-- A time of day. -/
structure Clock where
  /-- The hour, below 24. -/
  hour : Nat
  /-- The minute, below 60. -/
  minute : Nat
  /-- The second, below 60. -/
  second : Nat
  /-- The microsecond, below a million. -/
  micro : Nat
deriving DecidableEq, Inhabited

/-- A day, or a time on a day with the minutes its clock is ahead of universal time if known. -/
inductive Moment where
  | date (day : Day)
  | time (day : Day) (clock : Clock) (offset : Option Int)
deriving DecidableEq, Inhabited

namespace Day

/-- A year with a twenty-ninth of February. -/
def isLeap (year : Nat) : Bool := (year % 4 = 0 && year % 100 != 0) || year % 400 = 0

/-- The number of days in a month. -/
def daysIn (year month : Nat) : Nat :=
  if month = 2 then (if isLeap year then 29 else 28)
  else if month = 4 ∨ month = 6 ∨ month = 9 ∨ month = 11 then 30
  else 31

/-- The day exists in the calendar. -/
def isValid (day : Day) : Bool :=
  1 ≤ day.year && day.year ≤ 9999 && 1 ≤ day.month && day.month ≤ 12 &&
    1 ≤ day.day && day.day ≤ daysIn day.year day.month

/-- The number of days before a month of a year. -/
def daysBefore (year : Nat) : (month : Nat) → Nat
  | 0 => 0
  | month + 1 => if month = 0 then 0 else daysBefore year month + daysIn year month

/-- The number of days from the first day of year 1. -/
def number (day : Day) : Nat :=
  let past := day.year - 1
  past * 365 + past / 4 - past / 100 + past / 400 + daysBefore day.year day.month + (day.day - 1)

/-- The day as year, month and day between hyphens. -/
def text (day : Day) : String :=
  String.ofList (Text.paddedDecimal 4 day.year ++ '-' :: Text.paddedDecimal 2 day.month ++
    '-' :: Text.paddedDecimal 2 day.day)

end Day

namespace Clock

/-- The time exists on a clock. -/
def isValid (clock : Clock) : Bool :=
  clock.hour < 24 && clock.minute < 60 && clock.second < 60 && clock.micro < 1000000

/-- The number of microseconds from midnight. -/
def micros (clock : Clock) : Nat :=
  ((clock.hour * 60 + clock.minute) * 60 + clock.second) * 1000000 + clock.micro

/-- The time as hour, minute and second between colons, with six more places if not zero. -/
def text (clock : Clock) : String :=
  String.ofList (Text.paddedDecimal 2 clock.hour ++ ':' :: Text.paddedDecimal 2 clock.minute ++
    ':' :: Text.paddedDecimal 2 clock.second ++
    (if clock.micro = 0 then [] else '.' :: Text.paddedDecimal 6 clock.micro))

end Clock

namespace Moment

/-- An offset in minutes as a sign, hours and minutes. -/
def offsetText (offset : Int) : String :=
  let minutes := offset.natAbs
  String.ofList ((if offset < 0 then '-' else '+') :: Text.paddedDecimal 2 (minutes / 60) ++
    ':' :: Text.paddedDecimal 2 (minutes % 60))

/-- The text of a moment, with a separator between the day and the time. -/
def textWith (separator : String) : Moment → String
  | .date day => day.text
  | .time day clock offset =>
      day.text ++ separator ++ clock.text ++ (offset.map offsetText).getD ""

/-- The text of a moment, with a space between the day and the time. -/
def text (moment : Moment) : String := moment.textWith " "

/-- The microseconds from the start of year 1 to a time, in universal time if the offset is known. -/
def micros (day : Day) (clock : Clock) (offset : Option Int) : Int :=
  Int.ofNat (day.number * 86400000000 + clock.micros) - offset.getD 0 * 60000000

/-- The order of two moments of one kind. -/
def compare? : Moment → Moment → Option Ordering
  | .date left, .date right =>
      some (if left.number < right.number then .lt
        else if left.number = right.number then .eq else .gt)
  | .time leftDay leftClock leftOffset, .time rightDay rightClock rightOffset =>
      if leftOffset.isSome = rightOffset.isSome then
        let left := micros leftDay leftClock leftOffset
        let right := micros rightDay rightClock rightOffset
        some (if left < right then .lt else if left = right then .eq else .gt)
      else none
  | _, _ => none

/-- Two moments of one kind that denote the same day or instant. -/
def same (left right : Moment) : Bool := compare? left right == some .eq

/-- The arguments of a constructor call in order, between parentheses. -/
def call (name : String) (arguments : List String) : String :=
  name ++ "(" ++ ", ".intercalate arguments ++ ")"

/-- A span of time in minutes as the call that builds it. -/
def spanCall (minutes : Int) : String :=
  let seconds := minutes * 60
  let days := seconds.fdiv 86400
  let rest := seconds.fmod 86400
  call "datetime.timedelta"
    ((if days = 0 then [] else ["days=" ++ Text.intText days]) ++
      (if rest = 0 then [] else ["seconds=" ++ Text.intText rest]) ++
      (if days = 0 ∧ rest = 0 then ["0"] else []))

/-- A moment as the call that builds it, the form it has inside a displayed collection. -/
def callText : Moment → String
  | .date day =>
      call "datetime.date" [Text.natText day.year, Text.natText day.month, Text.natText day.day]
  | .time day clock offset =>
      let trailing :=
        if clock.micro = 0 then
          if clock.second = 0 then [] else [Text.natText clock.second]
        else [Text.natText clock.second, Text.natText clock.micro]
      let zone :=
        match offset with
        | none => []
        | some 0 => ["tzinfo=datetime.timezone.utc"]
        | some minutes => ["tzinfo=" ++ call "datetime.timezone" [spanCall minutes]]
      call "datetime.datetime"
        ([Text.natText day.year, Text.natText day.month, Text.natText day.day,
          Text.natText clock.hour, Text.natText clock.minute] ++ trailing ++ zone)

end Moment

end SpecGraph
