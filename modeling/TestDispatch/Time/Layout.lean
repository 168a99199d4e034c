import TestDispatch.Time.Instant
import TestDispatch.Text.Quoted
/-!
# Reading RFC 3339 times strictly

`Instant.readStrict` reads a time the way a JSON field of time type does: the text must be
RFC 3339 exactly (`Instant.parse`); a text that is not is read once more against the layout
`2006-01-02T15:04:05Z07:00` element by element, to say what is wrong with it.

The element-wise reading takes, in order: a year of four octets (a digit first), `-`, a
two-digit month in 1..12, `-`, a two-digit day, `T`, an hour of one or two digits below 24,
`:`, a two-digit minute below 60, `:`, a two-digit second below 60 with an optional fraction
after `.` or `,`, and `Z` or an offset `±hh:mm`; nothing may follow, and the day must exist in
its month. The first element that does not fit is reported:

* `parsing time "v" as "2006-01-02T15:04:05Z07:00": cannot parse "rest" as "elem"` for text
  that does not fit the element `elem` (`rest` is the text from where the element begins);
* `parsing time "v": month out of range` (likewise hour, minute, second, day) for a number
  outside its range;
* `parsing time "v": extra text: "rest"` for text after the offset.

A text the element-wise reading accepts can still be refused, since RFC 3339 asks for more than
the layout: a one-digit hour, a comma before the fraction, or an offset of 24 hours or 60
minutes. Quoted texts show ASCII as it is (the quote and the backslash escaped) and every other
octet as `\xNN`.
-/

namespace TestDispatch.Instant

/-- The layout element names, as messages show them. -/
def rfc3339Layout : String := "2006-01-02T15:04:05Z07:00"

/-- Octets between quotes: ASCII from the blank up as it is (`"` and `\` escaped), every other
octet as `\xNN`. -/
def quoteOctets (bs : List UInt8) : String :=
  let piece (b : UInt8) : List Char :=
    if b < 0x20 || b ≥ 0x80 then '\\' :: 'x' :: Quoted.hexDigits 2 b.toNat
    else if b = 0x22 || b = 0x5C then ['\\', Char.ofNat b.toNat]
    else [Char.ofNat b.toNat]
  String.ofList ('"' :: bs.flatMap piece ++ ['"'])

/-- The text `v` does not fit the layout element `elem` from `rest` on. -/
def misfit (v : List UInt8) (elem : String) (rest : List UInt8) : String :=
  s!"parsing time {quoteOctets v} as {Quoted.quote rfc3339Layout}: cannot parse {quoteOctets rest} as {Quoted.quote elem}"

/-- The text `v` holds a number out of its range, or some other fault `what`. -/
def fault (v : List UInt8) (what : String) : String :=
  s!"parsing time {quoteOctets v}: {what}"

/-- Whether an octet is a decimal digit. -/
def isDigitOctet (b : UInt8) : Bool := 0x30 ≤ b && b ≤ 0x39

/-- The value of a digit octet. -/
def digitValue (b : UInt8) : Nat := b.toNat - 0x30

/-- One or two leading digits (exactly two when `fixed`), and the octets after them. -/
def leadingNumber (fixed : Bool) : List UInt8 → Option (Nat × List UInt8)
  | a :: b :: rest =>
    if !isDigitOctet a then none
    else if isDigitOctet b then some (digitValue a * 10 + digitValue b, rest)
    else if fixed then none else some (digitValue a, b :: rest)
  | [a] => if isDigitOctet a && !fixed then some (digitValue a, []) else none
  | [] => none

/-- A number of octets with an optional sign, all digits after it. -/
def signedNumber (bs : List UInt8) : Option Int :=
  let (neg, digits) := match bs with
    | 0x2D :: rest => (true, rest)
    | 0x2B :: rest => (false, rest)
    | _ => (false, bs)
  if digits.all isDigitOctet then
    let n : Int := digits.foldl (fun acc d => acc * 10 + digitValue d) 0
    some (if neg then -n else n)
  else none

/-- Consumes the literal octet `c`. -/
def literal (v : List UInt8) (c : Char) (rest : List UInt8) : Except String (List UInt8) :=
  match rest with
  | b :: more => if b.toNat = c.toNat then .ok more else .error (misfit v c.toString rest)
  | [] => .error (misfit v c.toString rest)

/-- A two-digit field `elem` in `lo..hi` (checked when `named` is given), and the rest. -/
def field (v : List UInt8) (elem : String) (fixed : Bool) (rest : List UInt8)
    (range : Option (String × Nat × Nat)) : Except String (Nat × List UInt8) :=
  match leadingNumber fixed rest with
  | none => .error (misfit v elem rest)
  | some (n, after) =>
    match range with
    | some (name, lo, hi) => if n < lo || n > hi then .error (fault v s!"{name} out of range") else .ok (n, after)
    | none => .ok (n, after)

/-- The fraction after the seconds, when `.` or `,` and a digit follow: its nanoseconds (from
its first nine digits) and the octets after its digits. -/
def fractionPart (rest : List UInt8) : Nat × List UInt8 :=
  match rest with
  | s :: d :: more =>
    if (s = 0x2E || s = 0x2C) && isDigitOctet d then
      let digits := (d :: more).takeWhile isDigitOctet
      let kept := digits.take 9
      (kept.foldl (fun acc x => acc * 10 + digitValue x) 0 * Nat.pow 10 (9 - kept.length),
        (d :: more).drop digits.length)
    else (0, rest)
  | _ => (0, rest)

/-- The zone: `Z`, or a sign, two digits, `:` and two digits. Answers the offset in seconds,
its hours and minutes (zero for `Z`), and what follows. An offset number out of range is
reported before any other fault of the zone. -/
def zone (v : List UInt8) (rest : List UInt8) : Except String (Int × Nat × Nat × List UInt8) :=
  match rest with
  | 0x5A :: more => .ok (0, 0, 0, more)
  | sign :: h1 :: h2 :: colon :: m1 :: m2 :: more =>
    if colon ≠ 0x3A then .error (misfit v "Z07:00" rest)
    else
      let hours := leadingNumber true [h1, h2]
      let minutes := if hours.isSome then leadingNumber true [m1, m2] else none
      let hh := (hours.map Prod.fst).getD 0
      let mm := (minutes.map Prod.fst).getD 0
      if mm > 60 then .error (fault v "time zone offset minute out of range")
      else if hh > 24 then .error (fault v "time zone offset hour out of range")
      else if minutes.isNone || !(sign = 0x2B || sign = 0x2D) then .error (misfit v "Z07:00" rest)
      else
        let offset : Int := ((hh * 60 + mm) * 60 : Nat)
        .ok ((if sign = 0x2D then -offset else offset), hh, mm, more)
  | _ => .error (misfit v "Z07:00" rest)

/-- Reads `v` element by element against the layout: the time, and the offset's hours and
minutes as written (zero for `Z`). -/
def readLayout (v : List UInt8) : Except String (Instant × Nat × Nat) := do
  if v.length < 4 || !(v.head?.map isDigitOctet).getD false then throw (misfit v "2006" v)
  let year ← match signedNumber (v.take 4) with
    | some y => pure y
    | none => throw (misfit v "2006" v)
  let rest ← literal v '-' (v.drop 4)
  let (month, rest) ← field v "01" true rest (some ("month", 1, 12))
  let rest ← literal v '-' rest
  let (day, rest) ← field v "02" true rest none
  let rest ← literal v 'T' rest
  let (hour, rest) ← field v "15" false rest (some ("hour", 0, 23))
  let rest ← literal v ':' rest
  let (minute, rest) ← field v "04" true rest (some ("minute", 0, 59))
  let rest ← literal v ':' rest
  let (second, rest) ← field v "05" true rest (some ("second", 0, 59))
  let (nanos, rest) := fractionPart rest
  let (offset, hh, mm, rest) ← zone v rest
  unless rest.isEmpty do throw (fault v s!"extra text: {quoteOctets rest}")
  if day < 1 || day > daysInMonth year month then throw (fault v "day out of range")
  pure (ofCivil year month day hour minute second nanos offset, hh, mm)

/-- Reads an RFC 3339 time strictly, with the words of the layout reader for a text that is not
one. -/
def readStrict (text : String) : Except String Instant :=
  match parse text with
  | some t => .ok t
  | none =>
    let v := text.toUTF8.toList
    match readLayout v with
    | .error e => .error e
    | .ok (t, hh, mm) =>
      if v.getD 12 0 = 0x3A then .error (misfit v "15" [v.getD 11 0])
      else if v.getD 19 0 = 0x2C then .error (misfit v "." [0x2C])
      else if v.getLast? ≠ some 0x5A then
        if hh ≥ 24 then .error (fault v "timezone hour out of range")
        else if mm ≥ 60 then .error (fault v "timezone minute out of range")
        else .ok t
      else .error (misfit v rfc3339Layout v)

end TestDispatch.Instant
