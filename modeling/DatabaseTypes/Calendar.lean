import DatabaseTypes.Decimal.Shortest
import DatabaseTypes.Fault
import DatabaseTypes.Text.Basic

/-!
# Dates, times and durations

* `Date`, `Moment`       a day of the calendar, and a time on it
* `Date.ofParts?`        the day of a year, a month and a day that exist
* `Moment.ofParts?`      the time of parts that exist
* `Date.ofDays`, `Moment.ofSeconds`  the day and the time so long after the beginning of 1970
* `Moment.same`          are two times one?
* `Date.text`, `Moment.text`         the usual display
* `Date.parts`, `Moment.parts`       the display that names the parts
* `Duration.text?`       tenths of a second below a minute, minutes and whole seconds from there on
-/

namespace DatabaseTypes

/-- a day of the calendar -/
structure Date where
  year : Nat
  month : Nat
  day : Nat
  deriving DecidableEq

/-- a time on a day; the offset from universal time is in minutes -/
structure Moment where
  date : Date
  hour : Nat
  minute : Nat
  second : Nat
  microsecond : Nat
  offset : Option Int
  deriving DecidableEq

/-! ## validity -/

/-- every fourth year but not every hundredth, and yet every four-hundredth -/
def Date.isLeapYear (year : Nat) : Bool :=
  year % 4 == 0 && (year % 100 != 0 || year % 400 == 0)

/-- the number of days of a month -/
def Date.daysOf (year month : Nat) : Nat :=
  if month = 2 then (if isLeapYear year then 29 else 28)
  else if month = 4 ∨ month = 6 ∨ month = 9 ∨ month = 11 then 30
  else 31

/-- the day of a year, a month and a day of the month -/
def Date.ofParts? (year month day : Nat) : Except CalendarFault Date :=
  if year = 0 ∨ 9999 < year then .error (.year year)
  else if month = 0 ∨ 12 < month then .error .month
  else if day = 0 ∨ daysOf year month < day then .error .day
  else .ok ⟨year, month, day⟩

/-- the time of its parts; an offset is below one day -/
def Moment.ofParts? (year month day hour minute second microsecond : Nat) (offset : Option Int) :
    Except CalendarFault Moment :=
  match offset with
  | some o =>
    if o ≤ -1440 ∨ 1440 ≤ o then .error (.offset o)
    else construct
  | none => construct
where
  /-- the time, once the offset is known to be good -/
  construct : Except CalendarFault Moment := do
    let date ← Date.ofParts? year month day
    if 23 < hour then .error .hour
    else if 59 < minute then .error .minute
    else if 59 < second then .error .second
    else pure { date, hour, minute, second, microsecond, offset }

/-! ## counting -/

/-- the day after a number of days from the beginning of 1970.  The count is by years that begin
in March, so that a leap day is the last day of its year. -/
def Date.ofDays (days : Nat) : Date :=
  let n := days + 719468
  let day := n % 146097
  let year := (day - day / 1460 + day / 36524 - day / 146096) / 365
  let rest := day - (365 * year + year / 4 - year / 100)
  let month := (5 * rest + 2) / 153
  { year := 400 * (n / 146097) + year + (if month < 10 then 0 else 1)
    month := if month < 10 then month + 3 else month - 9
    day := rest - (153 * month + 2) / 5 + 1 }

/-- the number of a day, by which days are counted in order -/
def Date.number (d : Date) : Int :=
  let year : Int := if d.month ≤ 2 then d.year - 1 else d.year
  let month : Nat := (d.month + 9) % 12
  365 * year + year / 4 - year / 100 + year / 400 + ((153 * month + 2) / 5 + d.day : Nat)

/-- the microseconds from a fixed time to this one, where the clock shows universal time -/
def Moment.instant (m : Moment) : Int :=
  let minutes := m.date.number * 1440 + (m.hour * 60 + m.minute : Nat) - m.offset.getD 0
  (minutes * 60 + m.second) * 1000000 + m.microsecond

/-- are two times one? With offsets it is the instants that count. -/
def Moment.same (m n : Moment) : Bool :=
  m.offset.isSome == n.offset.isSome && m.instant == n.instant

/-- the time after a number of seconds from the beginning of 1970 -/
def Moment.ofSeconds (seconds : Nat) : Moment :=
  { date := .ofDays (seconds / 86400), hour := seconds / 3600 % 24, minute := seconds / 60 % 60
    second := seconds % 60, microsecond := 0, offset := none }

/-! ## display -/

/-- a number with at least two digits -/
def twoDigits (n : Nat) : Text := Text.zeroPadded 2 (Text.ofNat n)

/-- year, month and day with hyphens -/
def Date.text (d : Date) : Text :=
  Text.zeroPadded 4 (Text.ofNat d.year) ++ ['-'] ++ twoDigits d.month ++ ['-'] ++ twoDigits d.day

/-- an offset by sign, hours and minutes -/
def offsetText (minutes : Int) : Text :=
  (if minutes < 0 then '-' else '+') :: twoDigits (minutes.natAbs / 60) ++ [':']
    ++ twoDigits (minutes.natAbs % 60)

/-- date and time with a space between them, microseconds and offset if there are any -/
def Moment.text (m : Moment) : Text :=
  m.date.text ++ [' '] ++ twoDigits m.hour ++ [':'] ++ twoDigits m.minute ++ [':']
    ++ twoDigits m.second
    ++ (if m.microsecond = 0 then [] else '.' :: Text.zeroPadded 6 (Text.ofNat m.microsecond))
    ++ (m.offset.map offsetText).getD []

/-- the date with its parts in brackets -/
def Date.parts (d : Date) : Text :=
  "datetime.date(" ++ Text.joined ", " ([d.year, d.month, d.day].map Text.ofNat) ++ ")"

/-- the time with its parts in brackets; seconds and microseconds only as far as they are not zero -/
def Moment.parts (m : Moment) : Text :=
  let tail : List Nat :=
    if m.microsecond ≠ 0 then [m.second, m.microsecond]
    else if m.second ≠ 0 then [m.second] else []
  let numbers := [m.date.year, m.date.month, m.date.day, m.hour, m.minute] ++ tail
  let zone : List Text := match m.offset with
    | none => []
    | some 0 => ["tzinfo=datetime.timezone.utc"]
    | some o => ["tzinfo=datetime.timezone(" ++ spanText o ++ ")"]
  "datetime.datetime(" ++ Text.joined ", " (numbers.map Text.ofNat ++ zone) ++ ")"

/-! ## durations -/

/-- a number of seconds -/
inductive Duration where
  | whole (seconds : Int)
  | real (seconds : Binary64)

namespace Duration

/-- minutes and seconds -/
def minutesText (minutes seconds : Nat) : Text :=
  Text.ofNat minutes ++ "m " ++ Text.ofNat seconds ++ "s"

/-- the whole minutes of `num / den` seconds: the seconds beyond the last minute are taken off, and
the difference and its sixtieth are rounded to double precision before the integer part is taken -/
def minutes (num den : Nat) : Nat :=
  let beyond := num % (60 * den)
  let (n, d) := (Binary64.ofQuotient false (num - beyond) den).magnitude
  let (n, d) := (Binary64.ofQuotient false n (60 * d)).magnitude
  if d < 2 * (n % d) then n / d + 1 else n / d

/-- a duration as text; there is none for a negative or an endless one -/
def text? : Duration → Except Fault Text
  | .whole n =>
    if n < 0 then .error .negativeDuration
    else if n < 60 then .ok (Text.ofInt n ++ ".0s")
    else .ok (minutesText (n.toNat / 60) (n.toNat % 60))
  | .real x =>
    if x.isBelowZero then .error .negativeDuration
    else match x with
      | .finite _ m e =>
        let (num, den) := scaledByTwo m 1 e
        if num < 60 * den then .ok (x.fixedText 1 ++ ['s'])
        else .ok (minutesText (minutes num den) (num % (60 * den) / den))
      | _ => .error .endlessDuration

end Duration

end DatabaseTypes
