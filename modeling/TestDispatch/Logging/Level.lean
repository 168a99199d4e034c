import TestDispatch.Text.Integer
import TestDispatch.Text.Quoted
/-!
# Log levels and formats

A log level is an integer: `DEBUG` is -4, `INFO` 0, `WARN` 4 and `ERROR` 8, and a level between
two names is written as the lower name with an offset (`INFO+2`, `DEBUG-10`). `parseLevel` reads
such a name, case-insensitively and with surrounding white space trimmed; the empty text is
`INFO` and `warning` is `WARN`.

A log format is `text` or `json` in any case, or empty for text.
-/

namespace TestDispatch.Logging

open TestDispatch.Text

/-- The level of debugging records. -/
def debug : Int := -4
/-- The level of ordinary records. -/
def info : Int := 0
/-- The level of warnings. -/
def warn : Int := 4
/-- The level of errors. -/
def error : Int := 8

/-- The characters trimmed around a level name: the Unicode white space. -/
def isSpace (c : Char) : Bool :=
  let n := c.toNat
  (9 ≤ n && n ≤ 13) || n = 32 || n = 0x85 || n = 0xA0 || n = 0x1680 || (0x2000 ≤ n && n ≤ 0x200A) ||
    n = 0x2028 || n = 0x2029 || n = 0x202F || n = 0x205F || n = 0x3000

/-- A text without white space at either end. -/
def trimSpace (s : String) : String :=
  String.ofList (((s.toList.dropWhile isSpace).reverse.dropWhile isSpace).reverse)

/-- Upper case for comparing level names: ASCII letters, and the dotless `ı` that upper-cases
to `I`. -/
def upperName (s : String) : String :=
  String.ofList (s.toList.map fun c => if c = '\u0131' then 'I' else c.toUpper)

/-- An integer brought into the signed 64-bit range the way machine addition wraps it. -/
def wrap64 (x : Int) : Int := (x + Int.pow 2 63) % Int.pow 2 64 - Int.pow 2 63

/-- The level a name stands for, with its optional signed offset. -/
def levelOfName (s : String) : Except String Int :=
  let cs := s.toList
  let cut := cs.findIdx? fun c => c = '+' || c = '-'
  let (name, offset) : String × Except NumeralError Int := match cut with
    | some i => (String.ofList (cs.take i), atoi (String.ofList (cs.drop i)))
    | none => (s, .ok 0)
  let fail (why : String) : Except String Int := .error s!"slog: level string {Quoted.quote s}: {why}"
  match offset with
  | .error e => fail e.message
  | .ok off =>
    let base : Option Int := match upperName name with
      | "DEBUG" => some debug
      | "INFO" => some info
      | "WARN" => some warn
      | "ERROR" => some error
      | _ => none
    match base with
    | none => fail "unknown name"
    | some b => .ok (wrap64 (b + off))

/-- Reads a configured level: trimmed, the empty text is `INFO`, `warning` (any case) is `WARN`,
else a level name. -/
def parseLevel (s : String) : Except String Int :=
  let t := trimSpace s
  if t = "" then .ok info
  else if (t.toList.map Char.toLower) = "warning".toList then .ok warn
  else (levelOfName t).mapError fun e => s!"log level {Quoted.quote t}: {e}"

/-- The name of a level: the nearest name at or below it, with the offset from it. -/
def levelName (l : Int) : String :=
  let named (base : String) (off : Int) : String :=
    if off = 0 then base else if off > 0 then s!"{base}+{off}" else s!"{base}{off}"
  if l < info then named "DEBUG" (l - debug)
  else if l < warn then named "INFO" (l - info)
  else if l < error then named "WARN" (l - warn)
  else named "ERROR" (l - error)

/-- Whether a format name asks for JSON records. -/
def isJsonFormat (format : String) : Bool := (format.toList.map Char.toLower) = "json".toList

/-- Checks a format name: `text`, `json` (any case) or empty. -/
def checkFormat (format : String) : Except String Unit :=
  let lower := String.ofList (format.toList.map Char.toLower)
  if lower = "" || lower = "text" || lower = "json" then .ok ()
  else .error s!"log format {Quoted.quote format}: want text or json"

end TestDispatch.Logging
