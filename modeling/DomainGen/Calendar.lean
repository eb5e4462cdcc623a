import DomainGen.Number.Shortest

/-!
# Dates and moments

The calendar values a document can hold: a day of the Gregorian calendar in the years 1 to 9999
(`Date`) and a moment, which is a day with a time and possibly a distance from universal time
(`Moment`).

* `Date.valid`, `Moment.valid` : which fields denote a day or a moment;
* `Date.text`, `Moment.text` : the written form; `Date.inner`, `Moment.inner` : the form shown
  inside lists and mappings;
* `Span` : a span of time between two moments;
* `Moment.same` : two moments are the same if they have the same fields, or, where both have a
  distance, if they are the same instant.
-/

namespace DomainGen

/-! ## 1. Days -/

/-- A day. -/
structure Date where
  /-- The year, 1 to 9999. -/
  year : Nat
  /-- The month, 1 to 12. -/
  month : Nat
  /-- The day of the month. -/
  day : Nat
  deriving DecidableEq, Repr, Inhabited

/-- The decimal digits of a number, filled up with zeros to a width. -/
def padded (width n : Nat) : String :=
  let ds := decimalDigits n
  String.ofList (List.replicate (width - ds.length) '0' ++ ds)

namespace Date

/-- Does the year have a leap day? -/
def isLeap (year : Nat) : Bool :=
  year % 4 == 0 && (year % 100 != 0 || year % 400 == 0)

/-- Days of a month. -/
def daysIn (year month : Nat) : Nat :=
  if month == 2 then (if isLeap year then 29 else 28)
  else if month == 4 || month == 6 || month == 9 || month == 11 then 30
  else 31

/-- Do the three fields denote a day? -/
def valid (d : Date) : Bool :=
  1 ≤ d.year && d.year ≤ 9999 && 1 ≤ d.month && d.month ≤ 12 && 1 ≤ d.day
    && d.day ≤ daysIn d.year d.month

/-- The days of the first months of a year. -/
def daysBefore (year : Nat) : (months : Nat) → Nat
  | 0 => 0
  | months + 1 => daysBefore year months + daysIn year (months + 1)

/-- Days since the last day before year 1. -/
def ordinal (d : Date) : Nat :=
  let y := d.year - 1
  y * 365 + y / 4 - y / 100 + y / 400
    + daysBefore d.year (d.month - 1) + d.day

/-- The written form: year, month and day joined by hyphens. -/
def text (d : Date) : String :=
  padded 4 d.year ++ "-" ++ padded 2 d.month ++ "-" ++ padded 2 d.day

/-- The form shown inside lists and mappings. -/
def inner (d : Date) : String :=
  "datetime.date(" ++ integerText d.year ++ ", " ++ integerText d.month ++ ", "
    ++ integerText d.day ++ ")"

end Date

/-! ## 2. Moments -/

/-- A moment. -/
structure Moment where
  /-- The day. -/
  date : Date
  /-- The hour, 0 to 23. -/
  hour : Nat
  /-- The minute, 0 to 59. -/
  minute : Nat
  /-- The second, 0 to 59. -/
  second : Nat
  /-- Millionths of a second. -/
  micro : Nat
  /-- Minutes east of universal time, if the moment says so. -/
  offset : Option Int
  deriving DecidableEq, Repr, Inhabited

namespace Moment

/-- Do the fields denote a moment? A distance from universal time is below one day. -/
def valid (m : Moment) : Bool :=
  m.date.valid && m.hour < 24 && m.minute < 60 && m.second < 60 && m.micro < 1000000
    && (match m.offset with
      | none => true
      | some o => o.natAbs < 1440)

/-- The written distance from universal time. -/
def offsetText : Option Int → String
  | none => ""
  | some o =>
    (if o < 0 then "-" else "+") ++ padded 2 (o.natAbs / 60) ++ ":" ++ padded 2 (o.natAbs % 60)

/-- The written form: the day, a blank, the time, then millionths and distance where there are
    any. -/
def text (m : Moment) : String :=
  m.date.text ++ " " ++ padded 2 m.hour ++ ":" ++ padded 2 m.minute ++ ":" ++ padded 2 m.second
    ++ (if m.micro = 0 then "" else "." ++ padded 6 m.micro) ++ offsetText m.offset

/-- The distance from universal time as shown inside lists and mappings. A negative distance counts
    whole days down and seconds up. -/
def offsetInner (o : Int) : String :=
  if o = 0 then "datetime.timezone.utc"
  else if 0 < o then
    "datetime.timezone(datetime.timedelta(seconds=" ++ integerText (o * 60) ++ "))"
  else
    "datetime.timezone(datetime.timedelta(days=-1, seconds=" ++ integerText (86400 + o * 60)
      ++ "))"

/-- The name of a distance from universal time. -/
def offsetName (o : Int) : String :=
  if o = 0 then "UTC" else "UTC" ++ offsetText (some o)

/-- The form shown inside lists and mappings: seconds and millionths only where they matter. -/
def inner (m : Moment) : String :=
  let fields := [m.date.year, m.date.month, m.date.day, m.hour, m.minute]
    ++ (if m.micro = 0 then (if m.second = 0 then [] else [m.second]) else [m.second, m.micro])
  "datetime.datetime(" ++ ", ".intercalate (fields.map fun (n : Nat) => integerText n)
    ++ (match m.offset with
      | none => ""
      | some o => ", tzinfo=" ++ offsetInner o)
    ++ ")"

/-- Millionths of a second since the start of year 1, universal time. -/
def instant (m : Moment) (offset : Int) : Int :=
  (((m.date.ordinal : Int) * 24 + m.hour) * 60 + m.minute - offset) * 60000000
    + m.second * 1000000 + m.micro

/-- Are the two moments the same? -/
def same (a b : Moment) : Bool :=
  match a.offset, b.offset with
  | some o, some p => a.instant o == b.instant p
  | none, none => a == b
  | _, _ => false

end Moment

/-! ## 3. Spans of time -/

/-- A span of time, in millionths of a second. -/
structure Span where
  /-- The millionths, negative for a span that goes back. -/
  micros : Int
  deriving DecidableEq, Repr, Inhabited

namespace Span

/-- Millionths of a second in a day. -/
def perDay : Int := 86400000000

/-- Whole days, counted down. -/
def days (s : Span) : Int := s.micros.fdiv perDay

/-- Whole seconds after the whole days. -/
def seconds (s : Span) : Int := (s.micros.fmod perDay).fdiv 1000000

/-- Millionths after the whole seconds. -/
def microseconds (s : Span) : Int := s.micros.fmod 1000000

/-- The written form: the days where there are any, then hours, minutes and seconds. -/
def text (s : Span) : String :=
  let d := s.days
  let t := s.seconds.toNat
  (if d = 0 then ""
    else integerText d ++ (if d.natAbs = 1 then " day, " else " days, "))
    ++ integerText (t / 3600 : Nat) ++ ":" ++ padded 2 (t / 60 % 60) ++ ":" ++ padded 2 (t % 60)
    ++ (if s.microseconds = 0 then "" else "." ++ padded 6 s.microseconds.toNat)

/-- The form shown inside lists and mappings. -/
def inner (s : Span) : String :=
  let part (name : String) (n : Int) : List String :=
    if n = 0 then [] else [name ++ "=" ++ integerText n]
  let parts := part "days" s.days ++ part "seconds" s.seconds ++ part "microseconds" s.microseconds
  "datetime.timedelta(" ++ (if parts.isEmpty then "0" else ", ".intercalate parts) ++ ")"

end Span

end DomainGen
