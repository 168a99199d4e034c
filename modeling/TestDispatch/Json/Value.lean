import TestDispatch.Text.Decimal
/-!
# JSON values

A JSON value as read from a message or written to one. A number keeps its literal text, so that
nothing is lost or rounded between reading and writing, and an object keeps its members in the
order written, repeats included: whoever reads the object decides which of two members of one
name counts (`Value.get?` takes the last, as a map that is filled in order would).
-/

namespace TestDispatch.Json

/-- A number as written: a literal of the JSON number grammar, such as `-12`, `2.5` or `1e400`. -/
structure Number where
  /-- The literal. -/
  text : String
  deriving DecidableEq, Repr

/-- A JSON value. -/
inductive Value where
  | null
  | bool (b : Bool)
  | number (n : Number)
  | string (s : String)
  | array (items : List Value)
  | object (members : List (String × Value))
  deriving Repr, Inhabited

namespace Number

/-- The literal of an integer. -/
def ofInt (i : Int) : Number := ⟨toString i⟩

/-- The literal of a natural number. -/
def ofNat (n : Nat) : Number := ⟨toString n⟩

/-- The decimal digits of the integer part, of the fraction and the exponent of a literal:
`-12.50e+3` gives `("12", "50", 3)`. A literal without a part gives its empty default. -/
def parts (n : Number) : String × String × Int :=
  let cs := n.text.toList
  let cs := match cs with
    | '-' :: r => r
    | r => r
  let intPart := cs.takeWhile Char.isDigit
  let rest := cs.dropWhile Char.isDigit
  let (frac, rest) := match rest with
    | '.' :: r => (r.takeWhile Char.isDigit, r.dropWhile Char.isDigit)
    | r => ([], r)
  let expo : Int := match rest with
    | e :: r =>
      if e = 'e' || e = 'E' then
        match r with
        | '-' :: ds => -(Text.decimalValue ds : Int)
        | '+' :: ds => Text.decimalValue ds
        | ds => Text.decimalValue ds
      else 0
    | [] => 0
  (String.ofList intPart, String.ofList frac, expo)

/-- Whether the literal denotes an integer: its value, read exactly, has no fraction. `1.0`,
`1e400` and `12345678901234567890` do, `2.5` and `1e-2` do not. -/
def isIntegral (n : Number) : Bool :=
  let (intPart, frac, expo) := n.parts
  let digits := (intPart ++ frac).toList
  if digits.all (· = '0') then true
  else
    -- the value is `digits × 10 ^ (expo - frac.length)`; it is an integer when the digits that
    -- a negative power cuts off are all zero
    let shift := expo - frac.length
    if 0 ≤ shift then true
    else (digits.reverse.take shift.natAbs).all (· = '0')

/-- The integer that a literal without fraction or exponent denotes. -/
def toInt? (n : Number) : Option Int :=
  match n.text.toList with
  | '-' :: ds => if !ds.isEmpty && ds.all Char.isDigit then some (-(Text.decimalValue ds)) else none
  | ds => if !ds.isEmpty && ds.all Char.isDigit then some (Text.decimalValue ds) else none

end Number

namespace Value

/-- The value of the last member named `key` of an object. -/
def get? (v : Value) (key : String) : Option Value :=
  match v with
  | .object ms => (ms.reverse.find? (·.1 = key)).map (·.2)
  | _ => none

/-- The name of a value's kind: `null`, `boolean`, `number`, `string`, `array` or `object`. -/
def kindName : Value → String
  | .null => "null"
  | .bool _ => "boolean"
  | .number _ => "number"
  | .string _ => "string"
  | .array _ => "array"
  | .object _ => "object"

/-- A text. -/
def str (s : String) : Value := .string s

/-- A list of texts. -/
def strs (xs : List String) : Value := .array (xs.map .string)

/-- An integer. -/
def int (i : Int) : Value := .number (Number.ofInt i)

/-- A natural number. -/
def nat (n : Nat) : Value := .number (Number.ofNat n)

end Value

end TestDispatch.Json
