/-!
# Instants

An instant is a point in time, counted in seconds and nanoseconds from 1970-01-01T00:00:00Z,
together with the zone offset it is shown in. Two instants are the same point in time when
their seconds and nanoseconds agree, whatever their offsets.

`Instant.parse` reads the RFC 3339 form (`2024-01-02T03:04:05.5+02:00`): four-digit year,
two-digit month, day, hour, minute and second, each in its range, an optional fraction of a
second, and `Z` or an offset `±hh:mm` below 24 hours. `Instant.format` writes it back with
the fraction's trailing zeros dropped, and `Z` for a zero offset.

The calendar is the proleptic Gregorian one; `daysFromCivil` and `civilFromDays` convert between
dates and day numbers.
-/

namespace TestDispatch

/-- A point in time and the zone offset it is shown in. -/
structure Instant where
  /-- Seconds since 1970-01-01T00:00:00Z. -/
  unix : Int
  /-- Nanoseconds within the second, below 10^9. -/
  nanos : Nat := 0
  /-- The zone offset in seconds east of UTC. -/
  offset : Int := 0
  deriving DecidableEq, Repr, Inhabited

namespace Instant

/-- Whether a year is a leap year. -/
def leapYear (y : Int) : Bool := y % 4 = 0 && (y % 100 ≠ 0 || y % 400 = 0)

/-- The days of a month of a year. -/
def daysInMonth (year : Int) (month : Nat) : Nat :=
  if month = 2 then (if leapYear year then 29 else 28)
  else if month = 4 || month = 6 || month = 9 || month = 11 then 30
  else 31

/-- The day number (days since 1970-01-01) of a date. -/
def daysFromCivil (year : Int) (month day : Nat) : Int :=
  let y := if month ≤ 2 then year - 1 else year
  let era := y / 400
  let yoe := y - era * 400
  let m : Int := month
  let mp := if m > 2 then m - 3 else m + 9
  let doy := (153 * mp + 2) / 5 + day - 1
  let doe := yoe * 365 + yoe / 4 - yoe / 100 + doy
  era * 146097 + doe - 719468

/-- The date `(year, month, day)` of a day number. -/
def civilFromDays (z : Int) : Int × Nat × Nat :=
  let z := z + 719468
  let era := z / 146097
  let doe := z - era * 146097
  let yoe := (doe - doe / 1460 + doe / 36524 - doe / 146096) / 365
  let y := yoe + era * 400
  let doy := doe - (365 * yoe + yoe / 4 - yoe / 100)
  let mp := (5 * doy + 2) / 153
  let d := doy - (153 * mp + 2) / 5 + 1
  let m := if mp < 10 then mp + 3 else mp - 9
  ((if m ≤ 2 then y + 1 else y), m.toNat, d.toNat)

/-- The instant of a civil date and time in the given offset. -/
def ofCivil (year : Int) (month day hour minute second : Nat) (nanos : Nat := 0) (offset : Int := 0) :
    Instant :=
  { unix := daysFromCivil year month day * 86400 + hour * 3600 + minute * 60 + second - offset,
    nanos, offset }

/-- The instant with no time at all: year 1, January 1, 00:00:00 UTC. -/
def zero : Instant := ofCivil 1 1 1 0 0 0

/-- Whether an instant is the zero instant. -/
def isZero (t : Instant) : Bool := t.unix = zero.unix && t.nanos = 0

/-- The same instant shown in UTC. -/
def utc (t : Instant) : Instant := { t with offset := 0 }

/-- The civil date and time an instant shows: year, month, day, hour, minute, second. -/
def civil (t : Instant) : Int × Nat × Nat × Nat × Nat × Nat :=
  let local_ := t.unix + t.offset
  let days := local_ / 86400
  let secs := (local_ % 86400).toNat
  let (y, m, d) := civilFromDays days
  (y, m, d, secs / 3600, secs % 3600 / 60, secs % 60)

/-- Whether two instants are the same point in time. -/
def sameTime (a b : Instant) : Bool := a.unix = b.unix && a.nanos = b.nanos

/-- Whether `a` comes before `b`. -/
def before (a b : Instant) : Bool := a.unix < b.unix || (a.unix = b.unix && a.nanos < b.nanos)

/-- The instant `nanos` nanoseconds later (earlier when negative). -/
def addNanos (t : Instant) (n : Int) : Instant :=
  let total := (t.nanos : Int) + n
  { t with unix := t.unix + total / 1000000000, nanos := (total % 1000000000).toNat }

/-- Nanoseconds from `a` to `b`. -/
def nanosBetween (a b : Instant) : Int := (b.unix - a.unix) * 1000000000 + b.nanos - a.nanos

/-! ## Text -/

/-- `n` written with at least `width` digits. -/
def padded (width n : Nat) : String :=
  let s := toString n
  String.ofList (List.replicate (width - s.length) '0') ++ s

/-- The fraction `.ddd` of nanoseconds without trailing zeros; empty for none. -/
def fraction (nanos : Nat) : String :=
  if nanos = 0 then ""
  else
    let digits := (padded 9 nanos).toList
    let trimmed := (digits.reverse.dropWhile (· = '0')).reverse
    "." ++ String.ofList trimmed

/-- The zone of an offset: `Z` for zero, else `±hh:mm`. -/
def zoneText (offset : Int) : String :=
  if offset = 0 then "Z"
  else
    let sign := if offset < 0 then "-" else "+"
    let a := offset.natAbs / 60
    s!"{sign}{padded 2 (a / 60)}:{padded 2 (a % 60)}"

/-- The year as four digits (a sign before years below zero). -/
def yearText (y : Int) : String :=
  if y < 0 then "-" ++ padded 4 y.natAbs else padded 4 y.toNat

/-- The RFC 3339 form with as many fraction digits as needed. -/
def format (t : Instant) : String :=
  let (y, mo, d, h, mi, s) := t.civil
  s!"{yearText y}-{padded 2 mo}-{padded 2 d}T{padded 2 h}:{padded 2 mi}:{padded 2 s}{fraction t.nanos}{zoneText t.offset}"

/-- The RFC 3339 form without a fraction. -/
def formatSeconds (t : Instant) : String :=
  let (y, mo, d, h, mi, s) := t.civil
  s!"{yearText y}-{padded 2 mo}-{padded 2 d}T{padded 2 h}:{padded 2 mi}:{padded 2 s}{zoneText t.offset}"

/-- Whether an instant's year, as shown, lies in 0..9999, the years the RFC 3339 form holds. -/
def yearInRange (t : Instant) : Bool :=
  let (y, _) := t.civil
  0 ≤ y && y ≤ 9999

/-- Why an instant has no JSON form: its year, as shown, lies outside 0..9999, or its zone is 24
hours or more away from UTC. -/
def marshalError? (t : Instant) : Option String :=
  let why := if !t.yearInRange then some "year outside of range [0,9999]"
    else if t.offset.natAbs / 3600 ≥ 24 then some "timezone hour outside of range [0,23]"
    else none
  why.map fun w => s!"json: error calling MarshalJSON for type time.Time: Time.MarshalJSON: {w}"

/-- Reads exactly the digits of `cs` as a number in `lo..hi`. -/
def digitsIn (cs : List Char) (lo hi : Nat) : Option Nat :=
  if cs.isEmpty || !cs.all Char.isDigit then none
  else
    let n := cs.foldl (fun acc c => acc * 10 + (c.toNat - 48)) 0
    if lo ≤ n && n ≤ hi then some n else none

/-- The fraction after the seconds of an RFC 3339 time: its nanoseconds (from its first nine
digits) and the text after its digits; no nanoseconds when no `.` and digit follow. -/
def parseFraction (rest : List Char) : Nat × List Char :=
  match rest with
  | '.' :: d :: more =>
    if d.isDigit then
      let ds := (d :: more).takeWhile Char.isDigit
      let taken := (ds.take 9)
      let value := taken.foldl (fun acc c => acc * 10 + (c.toNat - 48)) 0
      (value * Nat.pow 10 (9 - taken.length), (d :: more).drop ds.length)
    else (0, rest)
  | _ => (0, rest)

/-- The zone at the end of an RFC 3339 time, as an offset in seconds: `Z`, or a sign, hours
below 24, `:` and minutes below 60. -/
def parseZone (rest : List Char) : Option Int :=
  match rest with
  | ['Z'] => some 0
  | [sign, h1, h2, ':', m1, m2] => do
    let hh ← digitsIn [h1, h2] 0 23
    let mm ← digitsIn [m1, m2] 0 59
    guard (sign = '+' || sign = '-')
    let off : Int := (hh * 60 + mm) * 60
    pure (if sign = '-' then -off else off)
  | _ => none

/-- Reads the RFC 3339 form. -/
def parse (text : String) : Option Instant := do
  let cs := text.toList
  guard (cs.length ≥ 19)
  let at_ (i : Nat) : Char := cs.getD i ' '
  let slice (i n : Nat) : List Char := (cs.drop i).take n
  let year ← digitsIn (slice 0 4) 0 9999
  let month ← digitsIn (slice 5 2) 1 12
  let day ← digitsIn (slice 8 2) 1 (daysInMonth year month)
  let hour ← digitsIn (slice 11 2) 0 23
  let minute ← digitsIn (slice 14 2) 0 59
  let second ← digitsIn (slice 17 2) 0 59
  guard (at_ 4 = '-' && at_ 7 = '-' && at_ 10 = 'T' && at_ 13 = ':' && at_ 16 = ':')
  let (nanos, rest) := parseFraction (cs.drop 19)
  let offset ← parseZone rest
  pure (ofCivil year month day hour minute second nanos offset)

end Instant

end TestDispatch
