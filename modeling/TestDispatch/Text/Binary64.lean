/-!
# Double-precision values

`Binary64` is an IEEE 754 double: a finite value `±significand · 2 ^ exponent`, an infinity or
NaN. Values are built only by `Binary64.ofRatio`, which rounds an exact ratio to the nearest
double (ties to even), so every arithmetic result below is the correctly rounded one, the
same a hardware double unit gives.

Reading decimal text (`Binary64.readDecimal?`) follows the usual floating-point literal syntax:
digits with at most one point, an optional exponent, and `_` only between digits.
-/

namespace TestDispatch.Text

/-- A double-precision value. -/
inductive Binary64 where
  /-- `±significand · 2 ^ exponent`. -/
  | finite (negative : Bool) (significand : Nat) (exponent : Int)
  | infinite (negative : Bool)
  | nan
  deriving DecidableEq, Repr, Inhabited

namespace Binary64

/-- `2 ^ e` as a ratio `(numerator, denominator)`. -/
def powTwo (e : Int) : Nat × Nat :=
  if e ≥ 0 then (Nat.pow 2 e.toNat, 1) else (1, Nat.pow 2 (-e).toNat)

/-- Whether `num / den ≥ 2 ^ k`. -/
def atLeastPow (num den : Nat) (k : Int) : Bool :=
  let (a, b) := powTwo k
  num * b ≥ den * a

/-- The nearest double to `±num / den`, ties to even; `den` is positive. Values from `2 ^ 1024`
on (after rounding) become infinite. -/
def ofRatio (negative : Bool) (num den : Nat) : Binary64 :=
  if num = 0 || den = 0 then .finite negative 0 0
  else
    let k : Int := (Nat.log2 num : Int) - (Nat.log2 den : Int)
    let top : Int := if atLeastPow num den k then k else k - 1
    let e : Int := max (top - 52) (-1074)
    let (n, d) := if e ≥ 0 then (num, den * Nat.pow 2 e.toNat) else (num * Nat.pow 2 (-e).toNat, den)
    let q := n / d
    let r := n % d
    let q := if 2 * r > d || (2 * r = d && q % 2 = 1) then q + 1 else q
    let (q, e) := if q = Nat.pow 2 53 then (Nat.pow 2 52, e + 1) else (q, e)
    if e > 971 then .infinite negative else .finite negative q e

/-- The exact value of a finite double as `(negative, numerator, denominator)`. -/
def ratio : Binary64 → Option (Bool × Nat × Nat)
  | .finite neg m e => let (a, b) := powTwo e; some (neg, m * a, b)
  | _ => none

/-- The double nearest to a natural number. -/
def ofNat (n : Nat) : Binary64 := ofRatio false n 1

/-- The correctly rounded product of two finite doubles. -/
def mul (x y : Binary64) : Binary64 :=
  match x.ratio, y.ratio with
  | some (n1, a1, b1), some (n2, a2, b2) => ofRatio (n1 != n2) (a1 * a2) (b1 * b2)
  | _, _ => .nan

/-- The correctly rounded quotient of two finite doubles, the divisor not zero. -/
def div (x y : Binary64) : Binary64 :=
  match x.ratio, y.ratio with
  | some (n1, a1, b1), some (n2, a2, b2) =>
    if a2 = 0 then .nan else ofRatio (n1 != n2) (a1 * b2) (b1 * a2)
  | _, _ => .nan

/-- The integer part of a finite double, rounded toward zero. -/
def truncate : Binary64 → Option Int
  | .finite neg m e =>
    let magnitude : Nat := if e ≥ 0 then m * Nat.pow 2 e.toNat else m / Nat.pow 2 (-e).toNat
    some (if neg then -(magnitude : Int) else magnitude)
  | _ => none

/-- The smallest integer `2 ^ 63` that no signed 64-bit integer reaches. -/
def int64Limit : Nat := Nat.pow 2 63

/-- The signed 64-bit integer a value converts to, when it is at most `2 ^ 63`: the value
rounded toward zero when that fits, and `-2 ^ 63` (the machine's marker for an invalid
conversion) when it does not. NaN and values above `2 ^ 63` convert to nothing. -/
def toInt64 : Binary64 → Option Int
  | .nan => none
  | .infinite false => none
  | .infinite true => some (-(int64Limit : Int))
  | x@(.finite neg m e) =>
    let (a, b) := powTwo e
    if !neg && m * a > int64Limit * b then none
    else
      match x.truncate with
      | some t => if -(int64Limit : Int) ≤ t && t < int64Limit then some t else some (-(int64Limit : Int))
      | none => none

/-! ## Decimal text -/

/-- Whether the underscores of a number stand only between digits (after an optional sign and
base prefix, which counts as a digit). -/
def underscoresFit (text : List Char) : Bool :=
  let body := match text with
    | c :: rest => if c = '-' || c = '+' then rest else text
    | [] => []
  let (start, hex, body) := match body with
    | '0' :: b :: rest =>
      let l := b.toLower
      if l = 'b' || l = 'o' || l = 'x' then ('0', decide (l = 'x'), rest) else ('^', false, body)
    | _ => ('^', false, body)
  let isDigit (c : Char) : Bool := c.isDigit || (hex && 'a' ≤ c.toLower && c.toLower ≤ 'f')
  let rec go : List Char → Char → Bool
    | [], saw => saw != '_'
    | c :: rest, saw =>
      if isDigit c then go rest '0'
      else if c = '_' then saw = '0' && go rest '_'
      else saw != '_' && go rest '!'
  go body start

/-- The pieces of a decimal literal: its digits as one number, how many there are, and the
power of ten that scales them. -/
structure DecimalParts where
  negative : Bool := false
  digits : Nat := 0
  count : Nat := 0
  scale : Int := 0
  deriving Repr, Inhabited

/-- Reads the exponent digits; larger exponents than 10000 stop growing, which changes no
result since such values are already zero or infinite. -/
def exponentDigits : List Char → Nat → Bool → Option (Nat × Bool)
  | [], e, under => some (e, under)
  | c :: rest, e, under =>
    if c = '_' then exponentDigits rest e true
    else if c.isDigit then exponentDigits rest (if e < 10000 then e * 10 + (c.toNat - 48) else e) under
    else none

/-- Reads a decimal literal, with `_` between digits; `none` when it is not one. -/
def decimalParts (text : String) : Option DecimalParts :=
  let cs := text.toList
  let (neg, body) := match cs with
    | '+' :: rest => (false, rest)
    | '-' :: rest => (true, rest)
    | _ => (false, cs)
  -- digits and point
  let rec mantissa : List Char → DecimalParts → Bool → Bool → Option Nat → Bool →
      Option (DecimalParts × Bool × List Char)
    | [], p, sawDigits, _, pointAt, under =>
      if sawDigits then some ({ p with scale := -(((p.count : Int) - ((pointAt.getD p.count : Nat) : Int))) }, under, [])
      else none
    | c :: rest, p, sawDigits, sawDot, pointAt, under =>
      if c = '_' then mantissa rest p sawDigits sawDot pointAt true
      else if c = '.' && !sawDot then mantissa rest p sawDigits true (some p.count) under
      else if c.isDigit then
        mantissa rest { p with digits := p.digits * 10 + (c.toNat - 48), count := p.count + 1 }
          true sawDot pointAt under
      else if sawDigits then
        some ({ p with scale := -(((p.count : Int) - ((pointAt.getD p.count : Nat) : Int))) }, under, c :: rest)
      else none
  match mantissa body { negative := neg } false false none false with
  | none => none
  | some (p, under, rest) =>
    let finish (p : DecimalParts) (under : Bool) : Option DecimalParts :=
      if under && !underscoresFit cs then none else some p
    match rest with
    | [] => finish p under
    | c :: more =>
      if c = 'e' || c = 'E' then
        let (sign, digits) : Int × List Char := match more with
          | '+' :: ds => (1, ds)
          | '-' :: ds => (-1, ds)
          | ds => (1, ds)
        match digits with
        | d :: _ =>
          if !d.isDigit then none
          else match exponentDigits digits 0 under with
            | some (e, under) => finish { p with scale := p.scale + sign * e } under
            | none => none
        | [] => none
      else none

/-- The double a decimal literal denotes, correctly rounded; `.infinite` when it is too large
for a double. `none` when the text is not a decimal literal. -/
def readDecimal? (text : String) : Option Binary64 :=
  match decimalParts text with
  | none => none
  | some p =>
    if p.digits = 0 then some (.finite p.negative 0 0)
    else if p.scale + p.count ≤ -324 then some (.finite p.negative 0 0)
    else if p.scale + p.count ≥ 311 then some (.infinite p.negative)
    else if p.scale ≥ 0 then some (ofRatio p.negative (p.digits * Nat.pow 10 p.scale.toNat) 1)
    else some (ofRatio p.negative p.digits (Nat.pow 10 (-p.scale).toNat))

end Binary64

end TestDispatch.Text
