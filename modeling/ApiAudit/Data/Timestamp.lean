/-!
# Data/Timestamp — days of the calendar and moments of a day

A YAML text may write a **timestamp**: a day of the (proleptic Gregorian) calendar, or a day
with a time of day, optionally with microseconds and an offset from UTC.

* `Timestamp.check` accepts only real moments: a year from 1, a month from 1 to 12, a day the
  month has, an hour below 24, a minute and a second below 60, and an offset of less than a day
  either way.  The first field out of range names the refusal; the offset is looked at first.
* `Timestamp.literal` writes a timestamp as messages show it, `datetime.date(2020, 1, 1)` or
  `datetime.datetime(2001, 12, 14, 21, 59, 43, 100000, tzinfo=…)`: zero seconds and zero
  microseconds at the end are left out, and a zero offset is `datetime.timezone.utc`.
* `Timestamp.text` writes it in ISO form, `2001-12-14 21:59:43.100000-05:00`.
* `Timestamp.sameMoment` is equality: days by their fields, times of day without offset by
  their fields, times with an offset by the instant they name.  A day is never a time of day,
  and a time with an offset never equals one without.
-/

namespace ApiAudit

/-- A time of day: hours, minutes, seconds and microseconds, and the offset from UTC in seconds
when one is written. -/
structure Clock where
  hour : Nat
  minute : Nat
  second : Nat
  micro : Nat := 0
  offset : Option Int := none
  deriving DecidableEq, Repr

/-- A day of the calendar, with a time of day when one is given. -/
structure Timestamp where
  year : Nat
  month : Nat
  day : Nat
  clock : Option Clock := none
  deriving DecidableEq, Repr

namespace Timestamp

/-- **Leap years**: every fourth year, except centuries not divisible by 400. -/
def isLeap (y : Nat) : Bool := y % 4 == 0 && (y % 100 != 0 || y % 400 == 0)

/-- The number of days of a month. -/
def daysInMonth (y m : Nat) : Nat :=
  match m with
  | 2 => if isLeap y then 29 else 28
  | 4 | 6 | 9 | 11 => 30
  | _ => 31

/-- The number of a day counted from the first day of year 1, which is day 1. -/
def ordinal (y m d : Nat) : Nat :=
  let before := y - 1
  let monthsBefore := ((List.range (m - 1)).map fun i => daysInMonth y (i + 1)).foldl (· + ·) 0
  365 * before + before / 4 - before / 100 + before / 400 + monthsBefore + d

/-- Writes a natural number with at least `width` digits. -/
def padded (width n : Nat) : String :=
  let digits := toString n
  String.ofList (List.replicate (width - digits.length) '0') ++ digits

/-- The literal of a span of seconds: whole days (rounded down) and the seconds left over,
each left out when zero. -/
def spanLiteral (s : Int) : String :=
  let days := s / 86400
  let rest := s % 86400
  let parts := (if days != 0 then ["days=" ++ toString days] else []) ++
    (if rest != 0 then ["seconds=" ++ toString rest] else [])
  "datetime.timedelta(" ++ (if parts.isEmpty then "0" else ", ".intercalate parts) ++ ")"

/-- The literal of an offset from UTC. -/
def zoneLiteral (offset : Int) : String :=
  if offset == 0 then "datetime.timezone.utc"
  else "datetime.timezone(" ++ spanLiteral offset ++ ")"

/-- **The literal of a timestamp.** -/
def literal (t : Timestamp) : String :=
  match t.clock with
  | none => "datetime.date(" ++ ", ".intercalate ([t.year, t.month, t.day].map toString) ++ ")"
  | some c =>
    let tail := if c.micro != 0 then [c.second, c.micro] else if c.second != 0 then [c.second] else []
    let fields := ([t.year, t.month, t.day, c.hour, c.minute] ++ tail).map toString
    let zone := match c.offset with
      | some o => [", tzinfo=" ++ zoneLiteral o]
      | none => []
    "datetime.datetime(" ++ ", ".intercalate fields ++ String.join zone ++ ")"

/-- The ISO text of an offset: a sign, hours and minutes, and seconds when there are some. -/
def zoneText (offset : Int) : String :=
  let sign := if offset < 0 then "-" else "+"
  let a := offset.natAbs
  let secs := if a % 60 != 0 then ":" ++ padded 2 (a % 60) else ""
  sign ++ padded 2 (a / 3600) ++ ":" ++ padded 2 (a % 3600 / 60) ++ secs

/-- **The ISO text of a timestamp.** -/
def text (t : Timestamp) : String :=
  let date := padded 4 t.year ++ "-" ++ padded 2 t.month ++ "-" ++ padded 2 t.day
  match t.clock with
  | none => date
  | some c =>
    let micro := if c.micro != 0 then "." ++ padded 6 c.micro else ""
    let zone := (c.offset.map zoneText).getD ""
    date ++ " " ++ padded 2 c.hour ++ ":" ++ padded 2 c.minute ++ ":" ++ padded 2 c.second ++
      micro ++ zone

/-- The instant a time of day on a day names, in microseconds, with its offset taken off. -/
def instant (t : Timestamp) (c : Clock) : Int :=
  let seconds : Int := ((ordinal t.year t.month t.day * 24 + c.hour) * 60 + c.minute) * 60 + c.second
  (seconds - c.offset.getD 0) * 1000000 + c.micro

/-- **Equality of timestamps.** -/
def sameMoment (a b : Timestamp) : Bool :=
  match a.clock, b.clock with
  | none, none => a.year == b.year && a.month == b.month && a.day == b.day
  | some x, some y =>
    match x.offset, y.offset with
    | none, none => a == b
    | some _, some _ => instant a x == instant b y
    | _, _ => false
  | _, _ => false

/-- **Accepts a real moment**, or names the first field out of range. -/
def check (t : Timestamp) : Except String Timestamp := do
  if let some c := t.clock then
    if let some o := c.offset then
      if o ≤ -86400 || 86400 ≤ o then
        throw ("offset must be a timedelta strictly between -timedelta(hours=24) and " ++
          "timedelta(hours=24), not " ++ spanLiteral o ++ ".")
  if t.year < 1 || 9999 < t.year then throw ("year " ++ toString t.year ++ " is out of range")
  if t.month < 1 || 12 < t.month then throw "month must be in 1..12"
  if t.day < 1 || daysInMonth t.year t.month < t.day then throw "day is out of range for month"
  if let some c := t.clock then
    if 23 < c.hour then throw "hour must be in 0..23"
    if 59 < c.minute then throw "minute must be in 0..59"
    if 59 < c.second then throw "second must be in 0..59"
  pure t

example : literal ⟨2020, 1, 1, none⟩ = "datetime.date(2020, 1, 1)" := by decide
example : literal ⟨2001, 12, 14, some ⟨21, 59, 43, 100000, some (-18000)⟩⟩ =
    "datetime.datetime(2001, 12, 14, 21, 59, 43, 100000, tzinfo=datetime.timezone(" ++
      "datetime.timedelta(days=-1, seconds=68400)))" := by decide
example : literal ⟨2024, 1, 1, some ⟨0, 0, 0, 0, some 0⟩⟩ =
    "datetime.datetime(2024, 1, 1, 0, 0, tzinfo=datetime.timezone.utc)" := by decide
example : text ⟨2001, 12, 14, some ⟨21, 59, 43, 100000, some (-18000)⟩⟩ =
    "2001-12-14 21:59:43.100000-05:00" := by decide
example : (check ⟨2023, 2, 29, none⟩).toOption = none ∧ (check ⟨2024, 2, 29, none⟩).toOption.isSome := by
  decide

end Timestamp

end ApiAudit
