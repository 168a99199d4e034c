import TestDispatch.Logging.Level
import TestDispatch.Time.Instant
import TestDispatch.Text.Duration
/-!
# Log lines

A logger writes one line per record whose level reaches its own. A line starts with the
record's time (left out when the record has none), its level and its message, continues with
the logger's own attributes and ends with the record's. Times are shown in UTC in the RFC 3339
form with as many fraction digits as needed, and durations in their shortest form (`1.5s`).

There are two forms of line:

* text: `key=value` fields separated by blanks. A key or a text value is quoted when it is
  empty or holds a blank, `=`, `"`, a control character or a character that does not print;
  a group's members are written with the group's name and a dot before their keys.
* JSON: one object, whose members are the fields; a group is a nested object.

A group without members is left out; a group with the empty name is written in place, as if its
members stood where it stands.
-/

namespace TestDispatch.Logging

open TestDispatch.Text

/-- The value of a log attribute. -/
inductive LogValue where
  | string (s : String)
  | int (n : Int)
  | bool (b : Bool)
  | duration (nanos : Int)
  | time (t : Instant)
  | group (attrs : List (String × LogValue))
  deriving Repr, Inhabited

/-- A log record. -/
structure LogRecord where
  time : Option Instant := none
  level : Int
  message : String
  attrs : List (String × LogValue) := []
  deriving Repr, Inhabited

/-- A logger: the least level it writes, the form of its lines, the attributes every line
carries, and whether the lines it writes are kept at all. -/
structure Logger where
  level : Int
  json : Bool := false
  attrs : List (String × LogValue) := []
  keeps : Bool := true
  deriving Repr, Inhabited

/-! ## Text lines -/

/-- Whether a text must be quoted in a text line. The backslash alone does not call for quotes. -/
def needsQuoting (s : String) : Bool :=
  s.isEmpty || s.any fun c =>
    let n := c.toNat
    if n < 0x80 then c = ' ' || c = '=' || c = '"' || n < 0x20
    else c = '\uFFFD' || !Quoted.isPrint c

/-- A text as a text line shows it. -/
def textOf (s : String) : String := if needsQuoting s then Quoted.quote s else s

/-- How a time is shown: in UTC, RFC 3339 with the fraction it needs. -/
def timeText (t : Instant) : String := t.utc.format

/-- A value other than a group, as a text line shows it. -/
def textValue : LogValue → String
  | .string s => textOf s
  | .int n => toString n
  | .bool b => if b then "true" else "false"
  | .duration d => textOf (Duration.format ⟨d⟩)
  | .time t => textOf (timeText t)
  | .group _ => ""

mutual

/-- The fields of an attribute in a text line, under the key prefix `pre`. -/
def textAttr (pre key : String) : LogValue → List String
  | .group [] => []
  | .group members => textAttrs (if key = "" then pre else pre ++ key ++ ".") members
  | v => [textOf (pre ++ key) ++ "=" ++ textValue v]

/-- The fields of attributes in a text line, under the key prefix `pre`. -/
def textAttrs (pre : String) : List (String × LogValue) → List String
  | [] => []
  | (key, v) :: rest => textAttr pre key v ++ textAttrs pre rest

end

/-! ## JSON lines -/

/-- How one character of a string is written in a JSON line: the quote and the backslash
escaped, `\n`, `\r` and `\t` by their letters, other control characters as `\u00XX`, and the
line and paragraph separators U+2028 and U+2029 escaped too. -/
def jsonChar (c : Char) : List Char :=
  match c with
  | '"' => ['\\', '"']
  | '\\' => ['\\', '\\']
  | '\n' => ['\\', 'n']
  | '\r' => ['\\', 'r']
  | '\t' => ['\\', 't']
  | _ =>
    let n := c.toNat
    if n < 0x20 || n = 0x2028 || n = 0x2029 then '\\' :: 'u' :: Quoted.hexDigits 4 n else [c]

/-- A string as a JSON line writes it. -/
def jsonString (s : String) : String := String.ofList ('"' :: s.toList.flatMap jsonChar ++ ['"'])

/-- A value other than a group, as a JSON line writes it. -/
def jsonValue : LogValue → String
  | .string s => jsonString s
  | .int n => toString n
  | .bool b => if b then "true" else "false"
  | .duration d => jsonString (Duration.format ⟨d⟩)
  | .time t => jsonString (timeText t)
  | .group _ => ""

mutual

/-- The members an attribute adds to a JSON line. -/
def jsonAttr (key : String) : LogValue → List String
  | .group [] => []
  | .group members =>
    if key = "" then jsonAttrs members
    else [jsonString key ++ ":\x7b" ++ ",".intercalate (jsonAttrs members) ++ "\x7d"]
  | v => [jsonString key ++ ":" ++ jsonValue v]

/-- The members attributes add to a JSON line. -/
def jsonAttrs : List (String × LogValue) → List String
  | [] => []
  | (key, v) :: rest => jsonAttr key v ++ jsonAttrs rest

end

namespace Logger

/-- A logger writing lines of the given format (`json` in any case, else text) from `level`. -/
def new (level : Int) (format : String) : Logger := { level, json := isJsonFormat format }

/-- A logger that keeps nothing: its lines go nowhere, and it writes only above `ERROR`. -/
def discard : Logger := { level := error + 1, keeps := false }

/-- The logger with more attributes on every line. -/
def withAttrs (l : Logger) (attrs : List (String × LogValue)) : Logger :=
  { l with attrs := l.attrs ++ attrs }

/-- A logger for a named component: the given logger (or, for none, one that keeps nothing)
with the attribute `component` on every line. -/
def component (l : Option Logger) (name : String) : Logger :=
  (l.getD discard).withAttrs [("component", .string name)]

/-- Whether a level reaches the logger's. -/
def enabled (l : Logger) (level : Int) : Bool := decide (level ≥ l.level)

/-- The line a record makes, with its newline. -/
def format (l : Logger) (r : LogRecord) : String :=
  if l.json then
    let head := (r.time.map fun t => [jsonString "time" ++ ":" ++ jsonString (timeText t)]).getD [] ++
      [jsonString "level" ++ ":" ++ jsonString (levelName r.level),
       jsonString "msg" ++ ":" ++ jsonString r.message]
    "\x7b" ++ ",".intercalate (head ++ jsonAttrs l.attrs ++ jsonAttrs r.attrs) ++ "\x7d\n"
  else
    let head := (r.time.map fun t => ["time=" ++ textOf (timeText t)]).getD [] ++
      ["level=" ++ textOf (levelName r.level), "msg=" ++ textOf r.message]
    " ".intercalate (head ++ textAttrs "" l.attrs ++ textAttrs "" r.attrs) ++ "\n"

/-- What the logger keeps of a record: its line, or nothing when the record's level does not
reach the logger's or the logger keeps nothing. -/
def write (l : Logger) (r : LogRecord) : String :=
  if l.keeps && l.enabled r.level then l.format r else ""

/-- What the logger keeps of records, in order. -/
def writeAll (l : Logger) (rs : List LogRecord) : String := String.join (rs.map l.write)

end Logger

end TestDispatch.Logging
