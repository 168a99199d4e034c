import TestDispatch.Text.Binary64
/-!
# Durations

A duration is a signed count of nanoseconds that fits in 64 bits. Its text is a sequence of
decimal numbers, each with an optional fraction and a unit (`ns`, `us`, `µs`, `μs`, `ms`, `s`,
`m`, `h`), with an optional sign in front: `1h2m3.5s`, `-250ms`. The lone text `0` needs no
unit.

`Duration.parse` reads that text and `Duration.format` writes the shortest such text. A fraction
is scaled the way a double-precision computation scales it, so reading and writing agree with
every other program that keeps durations this way.
-/

namespace TestDispatch.Text

/-- A duration in nanoseconds. -/
structure Duration where
  nanos : Int
  deriving DecidableEq, Repr, Inhabited

namespace Duration

/-- Nanoseconds per unit. -/
def nanosecond : Nat := 1
def microsecond : Nat := 1000
def millisecond : Nat := 1000000
def second : Nat := 1000000000
def minute : Nat := 60 * second
def hour : Nat := 60 * minute

/-- The size of each unit name. -/
def unitSize : String → Option Nat
  | "ns" => some nanosecond
  | "us" => some microsecond
  | "µs" => some microsecond
  | "μs" => some microsecond
  | "ms" => some millisecond
  | "s" => some second
  | "m" => some minute
  | "h" => some hour
  | _ => none

/-- Quotes a text for an error: ASCII as it is (`"` and `\` escaped), every other octet as
`\xNN`. -/
def quoteText (s : String) : String :=
  let hex (n : Nat) : Char := "0123456789abcdef".toList.getD n '0'
  let piece (c : Char) : String :=
    if c.toNat < 0x20 || c.toNat ≥ 0x80 then
      String.join ((String.utf8EncodeChar c).map fun b =>
        String.ofList ['\\', 'x', hex (b.toNat / 16), hex (b.toNat % 16)])
    else if c = '"' || c = '\\' then String.ofList ['\\', c]
    else c.toString
  "\"" ++ String.join (s.toList.map piece) ++ "\""

/-- The limit `2 ^ 63` no count of nanoseconds reaches. -/
def limit : Nat := Nat.pow 2 63

/-- Reads leading digits; `none` when the value passes `2 ^ 63`. -/
def leadingInt : List Char → Nat → Option (Nat × List Char)
  | [], x => some (x, [])
  | c :: rest, x =>
    if c.isDigit then
      if x > limit / 10 then none
      else
        let x := x * 10 + (c.toNat - 48)
        if x > limit then none else leadingInt rest x
    else some (x, c :: rest)

/-- Reads the digits of a fraction: their value and the power of ten they are scaled by; digits
past what 63 bits hold are skipped. -/
def leadingFraction : List Char → Nat → Nat → Bool → Nat × Nat × List Char
  | [], x, scale, _ => (x, scale, [])
  | c :: rest, x, scale, skipping =>
    if c.isDigit then
      if skipping then leadingFraction rest x scale true
      else if x > (limit - 1) / 10 then leadingFraction rest x scale true
      else
        let y := x * 10 + (c.toNat - 48)
        if y > limit then leadingFraction rest x scale true
        else leadingFraction rest y (scale * 10) false
    else (x, scale, c :: rest)

/-- How many nanoseconds `f / scale` units make, computed in double precision and rounded
toward zero. -/
def fractionNanos (f scale unit : Nat) : Nat :=
  let perScale := Binary64.div (Binary64.ofNat unit) (Binary64.ofNat scale)
  match (Binary64.mul (Binary64.ofNat f) perScale).truncate with
  | some t => t.toNat
  | none => 0

/-- Reads the terms of a duration after its sign, summing their nanoseconds. -/
def terms (orig : String) : Nat → List Char → Nat → Except String Nat
  | 0, _, d => .ok d
  | _, [], d => .ok d
  | fuel + 1, s@(c :: _), d => do
    let invalid : Except String Nat := .error s!"time: invalid duration {quoteText orig}"
    if !(c = '.' || c.isDigit) then invalid
    else
      match leadingInt s 0 with
      | none => invalid
      | some (v, rest) =>
        let pre := decide (rest.length ≠ s.length)
        let (f, scale, rest, post) := match rest with
          | '.' :: more =>
            let (f, scale, after) := leadingFraction more 0 1 false
            (f, scale, after, decide (after.length ≠ more.length))
          | _ => (0, 1, rest, false)
        if !pre && !post then invalid
        else
          let unitChars := rest.takeWhile fun c => !(c = '.' || c.isDigit)
          let rest := rest.drop unitChars.length
          if unitChars.isEmpty then .error s!"time: missing unit in duration {quoteText orig}"
          else
            let u := String.ofList unitChars
            match unitSize u with
            | none => .error s!"time: unknown unit {quoteText u} in duration {quoteText orig}"
            | some unit =>
              if v > limit / unit then invalid
              else
                let v := v * unit
                let v := if f > 0 then v + fractionNanos f scale unit else v
                if v > limit then invalid
                else
                  let d := d + v
                  if d > limit then invalid else terms orig fuel rest d

/-- Reads a duration. -/
def parse (text : String) : Except String Duration :=
  let cs := text.toList
  let (neg, body) := match cs with
    | '-' :: rest => (true, rest)
    | '+' :: rest => (false, rest)
    | _ => (false, cs)
  if body = ['0'] then .ok ⟨0⟩
  else if body.isEmpty then .error s!"time: invalid duration {quoteText text}"
  else
    match terms text (body.length + 1) body 0 with
    | .error e => .error e
    | .ok d =>
      if neg then .ok ⟨-(d : Int)⟩
      else if d > limit - 1 then .error s!"time: invalid duration {quoteText text}"
      else .ok ⟨d⟩

/-! ## Writing -/

/-- The fraction `v / 10 ^ prec` as `.ddd` without trailing zeros (nothing when it is zero),
and the integer part. -/
def fraction (v prec : Nat) : String × Nat :=
  let rec go : Nat → Nat → List Char → Bool → List Char × Nat
    | 0, v, acc, _ => (acc, v)
    | i + 1, v, acc, printing =>
      let digit := v % 10
      let printing := printing || digit ≠ 0
      go i (v / 10) (if printing then Char.ofNat (48 + digit) :: acc else acc) printing
  let (digits, rest) := go prec v [] false
  ((if digits.isEmpty then "" else "." ++ String.ofList digits), rest)

/-- The shortest text of a duration: `1h2m3.5s`, `250ms`, `1.5µs`, `0s`. -/
def format (d : Duration) : String :=
  let u := d.nanos.natAbs
  let sign := if d.nanos < 0 then "-" else ""
  if u = 0 then "0s"
  else if u < second then
    let (prec, unit) :=
      if u < microsecond then (0, "ns")
      else if u < millisecond then (3, "µs")
      else (6, "ms")
    let (frac, whole) := fraction u prec
    sign ++ toString whole ++ frac ++ unit
  else
    let (frac, secs) := fraction u 9
    let text := toString (secs % 60) ++ frac ++ "s"
    let mins := secs / 60
    if mins = 0 then sign ++ text
    else
      let text := toString (mins % 60) ++ "m" ++ text
      let hours := mins / 60
      if hours = 0 then sign ++ text else sign ++ toString hours ++ "h" ++ text

end Duration

end TestDispatch.Text
