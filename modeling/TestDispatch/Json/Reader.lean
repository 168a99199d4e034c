import TestDispatch.Json.Value
import TestDispatch.Text.Quoted
/-!
# Reading JSON

JSON text is read octet by octet by a pushdown machine: `Machine.step` takes one octet, and the
stack holds the arrays and objects still open. The first octet that cannot continue a value is
reported with the place where it stands (`invalid character '}' looking for beginning of object
key string`), the character quoted as in `Quoted.quoteOctets`.

Two ways of reading share the machine:

* `readFirst` reads the first value of a stream and ignores what follows it. A stream with no
  value reports `EOF`, one that ends inside a value `unexpected EOF`.
* `readWhole` reads a text that must hold exactly one value, blanks around it apart. Text after
  the value is refused (`invalid character '{' after top-level value`), and a text that ends
  early reports `unexpected end of JSON input`.

Inside a string, each octet that starts no well-formed UTF-8 character and each `\u` escape of a
lone surrogate reads as U+FFFD.

A number keeps its literal as text. `ValidLiterals` says of a value that each of its literals is
one the reader takes whole, as every value it reads is: the values that have a JSON form.
-/

namespace TestDispatch.Json

/-- Where in a value a refused character stands. -/
inductive Place where
  | beginValue
  | beginKey
  | afterKey
  | afterMember
  | afterElement
  | inString
  | inEscape
  | inUnicodeEscape
  | inNumber
  | afterDecimalPoint
  | inExponent
  | inLiteral (word : String) (expected : Char)
  | afterTopLevel
  deriving DecidableEq, Repr

/-- The words that name a place in a message. -/
def Place.describe : Place → String
  | .beginValue => "looking for beginning of value"
  | .beginKey => "looking for beginning of object key string"
  | .afterKey => "after object key"
  | .afterMember => "after object key:value pair"
  | .afterElement => "after array element"
  | .inString => "in string literal"
  | .inEscape => "in string escape code"
  | .inUnicodeEscape => "in \\u hexadecimal character escape"
  | .inNumber => "in numeric literal"
  | .afterDecimalPoint => "after decimal point in numeric literal"
  | .inExponent => "in exponent of numeric literal"
  | .inLiteral w c => s!"in literal {w} (expecting {Quoted.quoteChar c})"
  | .afterTopLevel => "after top-level value"

/-- Why a text is no JSON value. -/
inductive ReadError where
  /-- A character, quoted, that cannot stand where it stands. -/
  | invalid (shown : String) (place : Place)
  /-- The text ends inside a value. -/
  | truncated
  /-- The text holds blanks only. -/
  | noValue
  deriving DecidableEq, Repr

/-- How a stream reader words an error. -/
def ReadError.streamMessage : ReadError → String
  | .invalid shown place => s!"invalid character {shown} {place.describe}"
  | .truncated => "unexpected EOF"
  | .noValue => "EOF"

/-- How a reader of a whole text words an error. -/
def ReadError.wholeMessage : ReadError → String
  | .invalid shown place => s!"invalid character {shown} {place.describe}"
  | .truncated => "unexpected end of JSON input"
  | .noValue => "unexpected end of JSON input"

/-! ## Strings -/

/-- The value of a hexadecimal digit octet (0 for any other octet). -/
def hexValue (b : UInt8) : Nat :=
  if 0x30 ≤ b && b ≤ 0x39 then (b - 0x30).toNat
  else if 0x61 ≤ b && b ≤ 0x66 then (b - 0x61).toNat + 10
  else if 0x41 ≤ b && b ≤ 0x46 then (b - 0x41).toNat + 10
  else 0

/-- Whether an octet is a hexadecimal digit. -/
def isHexOctet (b : UInt8) : Bool :=
  (0x30 ≤ b && b ≤ 0x39) || (0x61 ≤ b && b ≤ 0x66) || (0x41 ≤ b && b ≤ 0x46)

/-- The code unit of four hexadecimal digit octets. -/
def hex4 (a b c d : UInt8) : Nat :=
  ((hexValue a * 16 + hexValue b) * 16 + hexValue c) * 16 + hexValue d

/-- The character of a `\u` escape that is not part of a surrogate pair. -/
def unitChar (u : Nat) : Char :=
  if 0xD800 ≤ u && u < 0xE000 then Utf8.replacement else Char.ofNat u

/-- The characters of a string body, its escapes resolved: a high surrogate escape followed by a
low surrogate escape is one character, any other surrogate escape U+FFFD. -/
def unescape : List UInt8 → List Char
  | [] => []
  | 0x5C :: 0x75 :: a :: b :: c :: d :: 0x5C :: 0x75 :: a' :: b' :: c' :: d' :: rest =>
    let u := hex4 a b c d
    let u' := hex4 a' b' c' d'
    if 0xD800 ≤ u && u < 0xDC00 && 0xDC00 ≤ u' && u' < 0xE000 then
      Char.ofNat (0x10000 + (u - 0xD800) * 0x400 + (u' - 0xDC00)) :: unescape rest
    else unitChar u :: unescape (0x5C :: 0x75 :: a' :: b' :: c' :: d' :: rest)
  | 0x5C :: 0x75 :: a :: b :: c :: d :: rest => unitChar (hex4 a b c d) :: unescape rest
  | 0x5C :: e :: rest =>
    let c : Char := match e with
      | 0x62 => '\x08'
      | 0x66 => '\x0c'
      | 0x6E => '\n'
      | 0x72 => '\r'
      | 0x74 => '\t'
      | _ => Char.ofNat e.toNat
    c :: unescape rest
  | b :: rest =>
    have : (Utf8.next b rest).2.length < rest.length + 1 :=
      Nat.lt_succ_of_le (Utf8.length_next_le b rest)
    (Utf8.next b rest).1 :: unescape (Utf8.next b rest).2
termination_by bs => bs.length

/-! ## The machine -/

/-- Whether an octet is a decimal digit. -/
def isDigitOctet (b : UInt8) : Bool := 0x30 ≤ b && b ≤ 0x39

/-- An array or object that is still open. -/
inductive Frame where
  /-- An array and its elements so far, last first. -/
  | array (items : List Value)
  /-- An object, its members so far, last first, and the name of the member whose value is
  being read. -/
  | object (members : List (String × Value)) (pending : Option String)
  deriving Repr

/-- The parts of a number literal, by what may come next. -/
inductive NumberPhase where
  /-- After the minus sign. -/
  | sign
  /-- After a leading zero. -/
  | zero
  /-- Among the digits of the integer part. -/
  | integer
  /-- After the decimal point. -/
  | point
  /-- Among the digits of the fraction. -/
  | fraction
  /-- After `e` or `E`. -/
  | exponentMark
  /-- After the sign of the exponent. -/
  | exponentSign
  /-- Among the digits of the exponent. -/
  | exponent
  deriving DecidableEq, Repr

/-- The phase after octet `b`, when `b` continues a number. -/
def NumberPhase.next (phase : NumberPhase) (b : UInt8) : Option NumberPhase :=
  let digit := isDigitOctet b
  let mark := b = 0x65 || b = 0x45
  match phase with
  | .sign => if b = 0x30 then some .zero else if digit then some .integer else none
  | .zero => if b = 0x2E then some .point else if mark then some .exponentMark else none
  | .integer =>
    if digit then some .integer else if b = 0x2E then some .point
    else if mark then some .exponentMark else none
  | .point => if digit then some .fraction else none
  | .fraction => if digit then some .fraction else if mark then some .exponentMark else none
  | .exponentMark =>
    if b = 0x2B || b = 0x2D then some .exponentSign else if digit then some .exponent else none
  | .exponentSign => if digit then some .exponent else none
  | .exponent => if digit then some .exponent else none

/-- Where an octet that cannot continue an unfinished number stands. -/
def NumberPhase.refusal : NumberPhase → Place
  | .point => .afterDecimalPoint
  | .exponentMark | .exponentSign => .inExponent
  | _ => .inNumber

/-- Whether a number may end in a phase. -/
def NumberPhase.complete : NumberPhase → Bool
  | .zero | .integer | .fraction | .exponent => true
  | _ => false

/-- What the machine is in the middle of. -/
inductive Lexeme where
  /-- Waiting for a value; `]` may close the array just opened when `emptyClose`. -/
  | value (emptyClose : Bool)
  /-- Waiting for a member name; `}` may close the object just opened when `emptyClose`. -/
  | key (emptyClose : Bool)
  /-- Inside a string (a member name when `isKey`), its octets so far, last first. -/
  | str (isKey : Bool) (body : List UInt8)
  /-- After a backslash in a string. -/
  | escape (isKey : Bool) (body : List UInt8)
  /-- Inside a `\u` escape after `seen` digits. -/
  | unicode (isKey : Bool) (body : List UInt8) (seen : Nat)
  /-- Inside a number, its octets so far, last first. -/
  | number (body : List UInt8) (phase : NumberPhase)
  /-- Inside `true`, `false` or `null`, with the characters still expected. -/
  | literal (word : String) (expected : List Char)
  /-- After a member name, waiting for the colon. -/
  | colon
  /-- After a value inside an array or object. -/
  | afterValue
  /-- A whole value has been read. -/
  | done (v : Value)
  deriving Repr

/-- The state of the machine: the open arrays and objects, innermost first, and the lexeme. -/
structure Machine where
  stack : List Frame
  lexeme : Lexeme
  deriving Repr

/-- The machine before the first octet. -/
def Machine.start : Machine := ⟨[], .value false⟩

/-- Whether an octet is a blank between tokens. -/
def isBlank (b : UInt8) : Bool := b = 0x20 || b = 0x09 || b = 0x0A || b = 0x0D

/-- The machine after a whole value `v` was read inside `stack`. -/
def Machine.close (stack : List Frame) (v : Value) : Machine :=
  match stack with
  | [] => ⟨[], .done v⟩
  | .array items :: s => ⟨.array (v :: items) :: s, .afterValue⟩
  | .object members (some k) :: s => ⟨.object ((k, v) :: members) none :: s, .afterValue⟩
  | .object members none :: s => ⟨.object members none :: s, .afterValue⟩

/-- The value of a finished number. -/
def numberValue (body : List UInt8) : Value :=
  .number ⟨String.ofList (body.reverse.map fun b => Char.ofNat b.toNat)⟩

/-- The error for octet `b`, followed by `rest`, standing at `place`. -/
def refuse (b : UInt8) (rest : List UInt8) (place : Place) : ReadError :=
  .invalid (Quoted.quoteOctets b rest) place

/-- One octet after a value inside an array or object. -/
def Machine.afterValueStep (stack : List Frame) (b : UInt8) (rest : List UInt8) :
    Except ReadError Machine :=
  if isBlank b then .ok ⟨stack, .afterValue⟩
  else match stack with
    | .array items :: s =>
      if b = 0x2C then .ok ⟨stack, .value false⟩
      else if b = 0x5D then .ok (Machine.close s (.array items.reverse))
      else .error (refuse b rest .afterElement)
    | .object members _ :: s =>
      if b = 0x2C then .ok ⟨stack, .key false⟩
      else if b = 0x7D then .ok (Machine.close s (.object members.reverse))
      else .error (refuse b rest .afterMember)
    | [] => .error (refuse b rest .afterTopLevel)

/-- One octet where a value begins. -/
def Machine.valueStep (stack : List Frame) (emptyClose : Bool) (b : UInt8) (rest : List UInt8) :
    Except ReadError Machine :=
  if isBlank b then .ok ⟨stack, .value emptyClose⟩
  else if b = 0x5D && emptyClose then
    match stack with
    | .array items :: s => .ok (Machine.close s (.array items.reverse))
    | _ => .error (refuse b rest .beginValue)
  else if b = 0x7B then .ok ⟨.object [] none :: stack, .key true⟩
  else if b = 0x5B then .ok ⟨.array [] :: stack, .value true⟩
  else if b = 0x22 then .ok ⟨stack, .str false []⟩
  else if b = 0x2D then .ok ⟨stack, .number [b] .sign⟩
  else if b = 0x30 then .ok ⟨stack, .number [b] .zero⟩
  else if isDigitOctet b then .ok ⟨stack, .number [b] .integer⟩
  else if b = 0x74 then .ok ⟨stack, .literal "true" ['r', 'u', 'e']⟩
  else if b = 0x66 then .ok ⟨stack, .literal "false" ['a', 'l', 's', 'e']⟩
  else if b = 0x6E then .ok ⟨stack, .literal "null" ['u', 'l', 'l']⟩
  else .error (refuse b rest .beginValue)

/-- The value that a literal word stands for. -/
def literalValue (word : String) : Value :=
  if word = "true" then .bool true else if word = "false" then .bool false else .null

/-- The machine after one more octet `b`; `rest` is what follows it, used only to show a refused
character whole. -/
def Machine.step (m : Machine) (b : UInt8) (rest : List UInt8) : Except ReadError Machine :=
  let stack := m.stack
  match m.lexeme with
  | .value emptyClose => Machine.valueStep stack emptyClose b rest
  | .key emptyClose =>
    if isBlank b then .ok m
    else if b = 0x7D && emptyClose then
      match stack with
      | .object members _ :: s => .ok (Machine.close s (.object members.reverse))
      | _ => .error (refuse b rest .beginKey)
    else if b = 0x22 then .ok ⟨stack, .str true []⟩
    else .error (refuse b rest .beginKey)
  | .str isKey body =>
    if b = 0x22 then
      let text := String.ofList (unescape body.reverse)
      if isKey then
        match stack with
        | .object members _ :: s => .ok ⟨.object members (some text) :: s, .colon⟩
        | _ => .ok ⟨stack, .colon⟩
      else .ok (Machine.close stack (.string text))
    else if b = 0x5C then .ok ⟨stack, .escape isKey (b :: body)⟩
    else if b < 0x20 then .error (refuse b rest .inString)
    else .ok ⟨stack, .str isKey (b :: body)⟩
  | .escape isKey body =>
    if b = 0x75 then .ok ⟨stack, .unicode isKey (b :: body) 0⟩
    else if b = 0x22 || b = 0x5C || b = 0x2F || b = 0x62 || b = 0x66 || b = 0x6E || b = 0x72
        || b = 0x74 then .ok ⟨stack, .str isKey (b :: body)⟩
    else .error (refuse b rest .inEscape)
  | .unicode isKey body seen =>
    if isHexOctet b then
      if seen = 3 then .ok ⟨stack, .str isKey (b :: body)⟩
      else .ok ⟨stack, .unicode isKey (b :: body) (seen + 1)⟩
    else .error (refuse b rest .inUnicodeEscape)
  | .number body phase =>
    match phase.next b with
    | some phase' => .ok ⟨stack, .number (b :: body) phase'⟩
    | none =>
      if phase.complete then
        match stack with
        | [] => if isBlank b then .ok ⟨[], .done (numberValue body)⟩
                else .error (refuse b rest .afterTopLevel)
        | _ => Machine.afterValueStep (Machine.close stack (numberValue body)).stack b rest
      else .error (refuse b rest phase.refusal)
  | .literal word expected =>
    match expected with
    | c :: more =>
      if b.toNat = c.toNat then
        if more.isEmpty then .ok (Machine.close stack (literalValue word))
        else .ok ⟨stack, .literal word more⟩
      else .error (refuse b rest (.inLiteral word c))
    | [] => .ok (Machine.close stack (literalValue word))
  | .colon =>
    if isBlank b then .ok m
    else if b = 0x3A then .ok ⟨stack, .value false⟩
    else .error (refuse b rest .afterKey)
  | .afterValue => Machine.afterValueStep stack b rest
  | .done _ => if isBlank b then .ok m else .error (refuse b rest .afterTopLevel)

/-- The value read when the text ends in state `m`, if it ends a value. -/
def Machine.finish (m : Machine) : Except ReadError Value :=
  match m.stack, m.lexeme with
  | [], .done v => .ok v
  | [], .number body phase => if phase.complete then .ok (numberValue body) else .error .truncated
  | [], .value false => .error .noValue
  | _, _ => .error .truncated

/-- The number that octet `b` ends, when the machine holds an unfinished number at the top level
that `b` cannot continue: a stream's first value ends there, whatever `b` is. -/
def Machine.endsNumber? (m : Machine) (b : UInt8) : Option Value :=
  match m.stack, m.lexeme with
  | [], .number body phase =>
    if phase.complete && (phase.next b).isNone then some (numberValue body) else none
  | _, _ => none

/-- Runs the machine over a text until the first value is whole: the value and the octets after
it. -/
def Machine.runFirst (m : Machine) : List UInt8 → Except ReadError (Value × List UInt8)
  | [] => (m.finish).map (·, [])
  | b :: rest =>
    match m.endsNumber? b with
    | some v => .ok (v, b :: rest)
    | none =>
    match m.step b rest with
    | .error e => .error e
    | .ok m' =>
      match m'.lexeme with
      | .done first => .ok (first, rest)
      | _ => m'.runFirst rest

/-- Runs the machine over a whole text. -/
def Machine.runWhole (m : Machine) : List UInt8 → Except ReadError Value
  | [] => m.finish
  | b :: rest =>
    match m.step b rest with
    | .error e => .error e
    | .ok m' => m'.runWhole rest

/-- The first value of a stream, and what follows it. -/
def readFirst (bytes : List UInt8) : Except ReadError (Value × List UInt8) :=
  Machine.start.runFirst bytes

/-- The one value of a whole text. -/
def readWhole (bytes : List UInt8) : Except ReadError Value :=
  Machine.start.runWhole bytes

/-! ## Literals the reader takes whole -/

namespace NumberPhase

/-- The phase after the first octet of a number: a minus sign, a leading zero or another digit. -/
def first (b : UInt8) : Option NumberPhase :=
  if b = 0x2D then some .sign
  else if b = 0x30 then some .zero
  else if isDigitOctet b then some .integer
  else none

/-- The phase after more octets of a number, when each continues it. -/
def after : NumberPhase → List UInt8 → Option NumberPhase
  | p, [] => some p
  | p, b :: bs => (p.next b).bind (·.after bs)

end NumberPhase

/-- The phase a number's octets leave the machine in, when they begin a number and each later one
continues it. -/
def literalPhase : List UInt8 → Option NumberPhase
  | [] => none
  | b :: bs => (NumberPhase.first b).bind (·.after bs)

/-- A number whose literal the reader takes whole: the characters of octets that leave the
number phases complete. -/
def Number.Valid (n : Number) : Prop :=
  ∃ bs p, n.text = String.ofList (bs.map fun b => Char.ofNat b.toNat) ∧
    literalPhase bs = some p ∧ p.complete = true

/-- Every number of a value, at any depth, has a valid literal. -/
inductive ValidLiterals : Value → Prop
  | null : ValidLiterals .null
  | bool (b : Bool) : ValidLiterals (.bool b)
  | number {n : Number} : n.Valid → ValidLiterals (.number n)
  | string (s : String) : ValidLiterals (.string s)
  | array {items : List Value} (h : ∀ x ∈ items, ValidLiterals x) : ValidLiterals (.array items)
  | object {members : List (String × Value)} (h : ∀ x ∈ members, ValidLiterals x.2) :
      ValidLiterals (.object members)

attribute [simp] ValidLiterals.null ValidLiterals.bool ValidLiterals.string

end TestDispatch.Json
