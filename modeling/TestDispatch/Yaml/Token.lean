/-!
# YAML tokens

The tokens of a YAML character stream, each with the place where it starts and ends, and the
error that stops reading a stream.

A place (`Mark`) counts characters, lines and columns from zero. An error names the line of its
context (the construct being read, such as a flow sequence) and of its problem; the message shows
the context line when it is not the first line, else the problem line, and for an error found
while cutting the stream into tokens that line is counted from one.
-/

namespace TestDispatch.Yaml

/-- A place in the stream, all counts from zero. -/
structure Mark where
  index : Nat := 0
  line : Nat := 0
  column : Nat := 0
  deriving DecidableEq, Repr, Inhabited

/-- How a scalar is written. -/
inductive ScalarStyle where
  | plain
  | singleQuoted
  | doubleQuoted
  | literal
  | folded
  deriving DecidableEq, Repr, Inhabited

/-- What a token is. -/
inductive TokenKind where
  | streamStart
  | streamEnd
  | versionDirective (major minor : Nat)
  | tagDirective (handle pfx : String)
  | documentStart
  | documentEnd
  | blockSequenceStart
  | blockMappingStart
  | blockEnd
  | flowSequenceStart
  | flowSequenceEnd
  | flowMappingStart
  | flowMappingEnd
  | blockEntry
  | flowEntry
  | key
  | value
  | alias (name : String)
  | anchor (name : String)
  | tag (handle suffix : String)
  | scalar (text : String) (style : ScalarStyle)
  deriving DecidableEq, Repr, Inhabited

/-- A token and where it stands. -/
structure Token where
  kind : TokenKind
  start : Mark
  stop : Mark
  deriving DecidableEq, Repr, Inhabited

/-- Why a stream is no YAML. -/
structure SyntaxError where
  /-- Whether it was found while cutting the stream into tokens. -/
  lexical : Bool
  /-- The line of the construct being read, zero when there is none. -/
  contextLine : Nat
  /-- The line of the problem. -/
  problemLine : Nat
  /-- What is wrong. -/
  problem : String
  deriving DecidableEq, Repr, Inhabited

/-- The words of a syntax error: the line, when it is not the first, then the problem. -/
def SyntaxError.message (e : SyntaxError) : String :=
  let shift := if e.lexical then 1 else 0
  let line :=
    if e.contextLine ≠ 0 then e.contextLine + shift
    else if e.problemLine ≠ 0 then e.problemLine + shift
    else 0
  (if line = 0 then "" else s!"line {line}: ") ++ e.problem

/-! ## Character classes -/

/-- A line break: CR, LF, NEL, LS or PS. -/
def isBreak (c : Char) : Bool :=
  c = '\r' || c = '\n' || c = '\x85' || c = '\u2028' || c = '\u2029'

/-- A space or a tab. -/
def isBlank (c : Char) : Bool := c = ' ' || c = '\t'

/-- The end of the stream, read as a NUL character. -/
def isEnd (c : Char) : Bool := c = '\x00'

/-- A blank, a break or the end. -/
def isBlankOrEnd (c : Char) : Bool := isBlank c || isBreak c || isEnd c

/-- A break or the end. -/
def isBreakOrEnd (c : Char) : Bool := isBreak c || isEnd c

/-- A character of an anchor name or of a tag handle: a letter, a digit, `_` or `-`. -/
def isWordChar (c : Char) : Bool := c.isAlphanum || c = '_' || c = '-'

/-- A hexadecimal digit. -/
def isHex (c : Char) : Bool :=
  c.isDigit || ('a' ≤ c && c ≤ 'f') || ('A' ≤ c && c ≤ 'F')

/-- The value of a hexadecimal digit. -/
def hexValue (c : Char) : Nat :=
  if c.isDigit then c.toNat - 48 else if 'a' ≤ c && c ≤ 'f' then c.toNat - 87 else c.toNat - 55

/-- A character a stream may hold: tab, line feed, carriage return, the printable ASCII
characters, NEL, and every character from U+00A0 on but U+FFFE and U+FFFF. -/
def isAllowed (c : Char) : Bool :=
  let n := c.toNat
  n = 0x09 || n = 0x0A || n = 0x0D || (0x20 ≤ n && n ≤ 0x7E) || n = 0x85 ||
    (0xA0 ≤ n && n ≤ 0xFFFD) || 0x10000 ≤ n

end TestDispatch.Yaml
