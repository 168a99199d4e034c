import TestDispatch.Text.Quoted
import TestDispatch.Text.Binary64
/-!
# Reading integers

`readUnsigned` and `readSigned` read an integer in a given base, or with base 0 in the base its
prefix names (`0x`, `0o`, `0b`, a leading `0` for octal, else decimal, with `_` allowed between
digits). A number that does not fit the given width is out of range; the range check happens
digit by digit, so an overflow is found before a bad character later in the text.
-/

namespace TestDispatch.Text

/-- Why a text is no integer. -/
inductive NumeralFault where
  | invalid
  | range
  deriving DecidableEq, Repr, Inhabited

/-- A failed integer read: which reader, the text it was given and what went wrong. -/
structure NumeralError where
  reader : String
  input : String
  fault : NumeralFault
  deriving DecidableEq, Repr, Inhabited

/-- The words of a failed read, as `strconv.ParseInt: parsing "x": invalid syntax`. -/
def NumeralError.message (e : NumeralError) : String :=
  let why := match e.fault with
    | .invalid => "invalid syntax"
    | .range => "value out of range"
  s!"strconv.{e.reader}: parsing {Quoted.quote e.input}: {why}"

/-- The value of a digit in bases up to 36. -/
def digitValue (c : Char) : Option Nat :=
  if c.isDigit then some (c.toNat - 48)
  else
    let l := c.toLower
    if 'a' ≤ l && l ≤ 'z' then some (l.toNat - 87) else none

/-- The largest unsigned 64-bit value. -/
def maxUnsigned64 : Nat := Nat.pow 2 64 - 1

/-- Reads digits of `base` into `acc`, failing on a digit outside the base and on a value above
`maxValue`. -/
def readDigits (base maxValue : Nat) (underscores : Bool) :
    List Char → Nat → Bool → Except NumeralFault (Nat × Bool)
  | [], n, seen => .ok (n, seen)
  | c :: rest, n, seen =>
    if c = '_' && underscores then readDigits base maxValue underscores rest n true
    else match digitValue c with
      | none => .error .invalid
      | some d =>
        if d ≥ base then .error .invalid
        else if n ≥ maxUnsigned64 / base + 1 then .error .range
        else if n * base + d > maxValue then .error .range
        else readDigits base maxValue underscores rest (n * base + d) seen

/-- Reads an unsigned integer of `bits` bits in `base` (2 to 36, or 0 for the prefixed form). -/
def readUnsigned (text : String) (base bits : Nat) : Except NumeralFault Nat :=
  let cs := text.toList
  if cs.isEmpty then .error .invalid
  else
    let (base', digits) : Nat × List Char :=
      if base ≠ 0 then (base, cs)
      else match cs with
        | '0' :: b :: c :: rest =>
          let l := b.toLower
          if l = 'b' then (2, c :: rest)
          else if l = 'o' then (8, c :: rest)
          else if l = 'x' then (16, c :: rest)
          else (8, b :: c :: rest)
        | '0' :: rest => (8, rest)
        | _ => (10, cs)
    match readDigits base' (Nat.pow 2 bits - 1) (base = 0) digits 0 false with
    | .error f => .error f
    | .ok (n, under) => if under && !Binary64.underscoresFit cs then .error .invalid else .ok n

/-- Reads a signed integer of `bits` bits in `base`, with an optional `+` or `-`. -/
def readSigned (text : String) (base bits : Nat) : Except NumeralFault Int :=
  let cs := text.toList
  if cs.isEmpty then .error .invalid
  else
    let (neg, body) := match cs with
      | '+' :: rest => (false, rest)
      | '-' :: rest => (true, rest)
      | _ => (false, cs)
    match readUnsigned (String.ofList body) base bits with
    | .error f => .error f
    | .ok n =>
      let cutoff := Nat.pow 2 (bits - 1)
      if !neg && n ≥ cutoff then .error .range
      else if neg && n > cutoff then .error .range
      else .ok (if neg then -(n : Int) else n)

/-- `readSigned` with the error that names the reader and its input. -/
def parseInt (text : String) (base bits : Nat) : Except NumeralError Int :=
  (readSigned text base bits).mapError (NumeralError.mk "ParseInt" text)

/-- A decimal integer of 64 bits, as a command line reads one. -/
def atoi (text : String) : Except NumeralError Int :=
  (readSigned text 10 64).mapError (NumeralError.mk "Atoi" text)

end TestDispatch.Text
