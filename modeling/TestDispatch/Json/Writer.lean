import TestDispatch.Json.Value
import TestDispatch.Text.Quoted
/-!
# Writing JSON

A value written as JSON text, compact (`Value.write`) or with one member or element per line
(`Value.writeIndented`).

A string is written between double quotes with the quote and the backslash escaped, the control
characters `\b`, `\f`, `\n`, `\r` and `\t` by their letters and every other control character
as `\u00XX` with lower-case digits. U+2028 and U+2029, which end a line in some readers, are
always escaped. With `html` set, `<`, `>` and `&` are escaped too (as `\u003c`, `\u003e` and `\u0026`),
so that the text can stand inside an HTML page. Every other character is written as itself.
-/

namespace TestDispatch.Json

/-- How one character of a string is written. -/
def escapeChar (html : Bool) (c : Char) : List Char :=
  let u4 (n : Nat) : List Char := '\\' :: 'u' :: Quoted.hexDigits 4 n
  match c with
  | '"' => ['\\', '"']
  | '\\' => ['\\', '\\']
  | '\x08' => ['\\', 'b']
  | '\x0c' => ['\\', 'f']
  | '\n' => ['\\', 'n']
  | '\r' => ['\\', 'r']
  | '\t' => ['\\', 't']
  | _ =>
    let n := c.toNat
    if n < 0x20 || n = 0x2028 || n = 0x2029 then u4 n
    else if html && (c = '<' || c = '>' || c = '&') then u4 n
    else [c]

/-- A string as a JSON string literal. -/
def writeString (html : Bool) (s : String) : String :=
  String.ofList ('"' :: s.toList.flatMap (escapeChar html) ++ ['"'])

namespace Value

mutual

/-- The compact text of a value: no blank anywhere. -/
def write (html : Bool) : Value → String
  | .null => "null"
  | .bool true => "true"
  | .bool false => "false"
  | .number n => n.text
  | .string s => writeString html s
  | .array items => "[" ++ writeElements html items ++ "]"
  | .object members => "\x7b" ++ writeMembers html members ++ "\x7d"

/-- Elements, compact and separated by commas. -/
def writeElements (html : Bool) : List Value → String
  | [] => ""
  | [v] => write html v
  | v :: vs => write html v ++ "," ++ writeElements html vs

/-- Members, compact and separated by commas. -/
def writeMembers (html : Bool) : List (String × Value) → String
  | [] => ""
  | [(k, v)] => writeString html k ++ ":" ++ write html v
  | (k, v) :: ms => writeString html k ++ ":" ++ write html v ++ "," ++ writeMembers html ms

end

mutual

/-- The text of a value with each element and member on a line of its own, indented by `indent`
once per level below `margin`; an empty array or object stays `[]` or `{}`. -/
def writeIndented (html : Bool) (indent margin : String) : Value → String
  | .array [] => "[]"
  | .object [] => "\x7b\x7d"
  | .array items =>
    "[\n" ++ indentedElements html indent (margin ++ indent) items ++ "\n" ++ margin ++ "]"
  | .object members =>
    "\x7b\n" ++ indentedMembers html indent (margin ++ indent) members ++ "\n" ++ margin ++ "\x7d"
  | v => write html v

/-- Elements, one per line, each behind `margin`. -/
def indentedElements (html : Bool) (indent margin : String) : List Value → String
  | [] => ""
  | [v] => margin ++ writeIndented html indent margin v
  | v :: vs =>
    margin ++ writeIndented html indent margin v ++ ",\n" ++ indentedElements html indent margin vs

/-- Members, one per line, each behind `margin`. -/
def indentedMembers (html : Bool) (indent margin : String) : List (String × Value) → String
  | [] => ""
  | [(k, v)] => margin ++ writeString html k ++ ": " ++ writeIndented html indent margin v
  | (k, v) :: ms =>
    margin ++ writeString html k ++ ": " ++ writeIndented html indent margin v ++ ",\n"
      ++ indentedMembers html indent margin ms

end

end Value

end TestDispatch.Json
