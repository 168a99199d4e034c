import TestDispatch.Yaml.Token.Lexer
/-!
# Scalar tokens

The three ways of writing a scalar in a YAML stream:

* plain: ends at `: `, at ` #`, at a line less indented than the enclosing block, and in the
  flow context at `,`, `?`, `[`, `]`, `{` or `}`;
* quoted: between single quotes (a quote written twice stands for itself) or double quotes
  (with backslash escapes);
* block: `|` keeps line breaks, `>` folds them into spaces; a chomping indicator decides the
  final breaks.

In plain and quoted scalars a single line break folds into a space, and more breaks keep all but
the first.
-/

namespace TestDispatch.Yaml

namespace Lexer

/-- The text that joins two runs of a scalar across a line break: a lone line feed folds into a
space, more line breaks stand for themselves less the first. -/
def fold (leadingBreak trailingBreaks : List Char) : List Char :=
  if leadingBreak.head? = some '\n' then
    if trailingBreaks.isEmpty then [' '] else trailingBreaks
  else leadingBreak ++ trailingBreaks

/-- What a plain scalar has read so far. -/
structure PlainRun where
  text : Array Char := #[]
  leadingBreak : List Char := []
  trailingBreaks : List Char := []
  whitespace : List Char := []
  leadingBlanks : Bool := false
  stop : Mark := {}

/-- Whether a character ends a plain scalar where it stands. -/
def endsPlain (s : Lexer) : Bool :=
  let c := s.ch
  (c = ':' && isBlankOrEnd (s.ch 1)) ||
    (s.flowLevel > 0 && (c = ',' || c = '?' || c = '[' || c = ']' || c = '{' || c = '}'))

/-- Whether a document marker `---` or `...` starts at the current column 0. -/
def atDocumentMarker (s : Lexer) : Bool :=
  s.column = 0 &&
    ((s.ch = '-' && s.ch 1 = '-' && s.ch 2 = '-') || (s.ch = '.' && s.ch 1 = '.' && s.ch 2 = '.')) &&
    isBlankOrEnd (s.ch 3)

/-- Reads the non-blank characters of a plain scalar's run. -/
def plainWord : Nat → Lexer → PlainRun → Lexer × PlainRun
  | 0, s, r => (s, r)
  | f + 1, s, r =>
    if isBlankOrEnd s.ch || s.endsPlain then (s, r)
    else
      let r :=
        if r.leadingBlanks then
          { r with text := r.text ++ (fold r.leadingBreak r.trailingBreaks).toArray,
                   leadingBreak := [], trailingBreaks := [], leadingBlanks := false }
        else if !r.whitespace.isEmpty then
          { r with text := r.text ++ r.whitespace.toArray, whitespace := [] }
        else r
      let r := { r with text := r.text.push s.ch }
      let s := s.skip
      plainWord f s { r with stop := s.mark }

/-- Reads the blanks and breaks after a plain scalar's run. -/
def plainBlanks (start : Mark) (indent : Int) :
    Nat → Lexer → PlainRun → Except SyntaxError (Lexer × PlainRun)
  | 0, s, r => .ok (s, r)
  | f + 1, s, r =>
    let c := s.ch
    if isBlank c then
      if r.leadingBlanks && (s.column : Int) < indent && c = '\t' then
        s.fail start "found a tab character that violates indentation"
      else if !r.leadingBlanks then plainBlanks start indent f s.skip { r with whitespace := r.whitespace ++ [c] }
      else plainBlanks start indent f s.skip r
    else if isBreak c then
      let (s, br) := s.readBreak
      if !r.leadingBlanks then
        plainBlanks start indent f s { r with whitespace := [], leadingBreak := br, leadingBlanks := true }
      else plainBlanks start indent f s { r with trailingBreaks := r.trailingBreaks ++ br }
    else .ok (s, r)

/-- Reads a plain scalar from its runs. -/
def plainRuns (start : Mark) (indent : Int) :
    Nat → Lexer → PlainRun → Except SyntaxError (Lexer × PlainRun)
  | 0, s, r => .ok (s, r)
  | f + 1, s, r =>
    if s.atDocumentMarker || s.ch = '#' then .ok (s, r)
    else
      let (s, r) := plainWord (s.input.size + 1) s r
      if !(isBlank s.ch || isBreak s.ch) then .ok (s, r)
      else do
        let (s, r) ← plainBlanks start indent (s.input.size + 1) s r
        if s.flowLevel = 0 && (s.column : Int) < indent then .ok (s, r)
        else plainRuns start indent f s r

/-- A plain scalar token. -/
def scanPlain (s : Lexer) : LexStep := do
  let start := s.mark
  let (s, r) ← plainRuns start (s.indent + 1) (s.input.size + 1) s { stop := start }
  let s := s.push (.scalar (String.ofList r.text.toList) .plain) start r.stop
  pure (if r.leadingBlanks then { s with simpleKeyAllowed := true } else s)

/-- The character of a one-letter escape in a double-quoted scalar. -/
def escapeChar? (c : Char) : Option Char :=
  match c with
  | '0' => some '\x00'
  | 'a' => some '\x07'
  | 'b' => some '\x08'
  | 't' => some '\t'
  | '\t' => some '\t'
  | 'n' => some '\n'
  | 'v' => some '\x0b'
  | 'f' => some '\x0c'
  | 'r' => some '\r'
  | 'e' => some '\x1b'
  | ' ' => some ' '
  | '"' => some '"'
  | '\'' => some '\''
  | '\\' => some '\\'
  | '/' => some '/'
  | 'N' => some '\x85'
  | '_' => some '\u00A0'
  | 'L' => some '\u2028'
  | 'P' => some '\u2029'
  | _ => none

/-- The number of hexadecimal digits after an `x`, `u` or `U` escape. -/
def escapeWidth (c : Char) : Nat :=
  if c = 'x' then 2 else if c = 'u' then 4 else if c = 'U' then 8 else 0

/-- The value of `n` hexadecimal digits ahead, or none when one is missing. -/
def hexAhead (s : Lexer) (from_ n : Nat) : Option Nat :=
  (List.range n).foldl (fun acc k =>
    match acc with
    | none => none
    | some v => if isHex (s.ch (from_ + k)) then some (v * 16 + hexValue (s.ch (from_ + k))) else none)
    (some 0)

/-- Reads the non-blank characters of a quoted scalar's run: the text, whether an escaped line
break ended the run, and the lexer. -/
def quotedWord (single : Bool) (start : Mark) :
    Nat → Lexer → Array Char → Except SyntaxError (Lexer × Array Char × Bool)
  | 0, s, acc => .ok (s, acc, false)
  | f + 1, s, acc =>
    let c := s.ch
    if isBlankOrEnd c then .ok (s, acc, false)
    else if single && c = '\'' && s.ch 1 = '\'' then quotedWord single start f (s.skipN 2) (acc.push '\'')
    else if single && c = '\'' then .ok (s, acc, false)
    else if !single && c = '"' then .ok (s, acc, false)
    else if !single && c = '\\' && isBreak (s.ch 1) then .ok (s.skip.skipBreak, acc, true)
    else if !single && c = '\\' then
      let e := s.ch 1
      match escapeChar? e with
      | some x => quotedWord single start f (s.skipN 2) (acc.push x)
      | none =>
        let width := escapeWidth e
        if width = 0 then s.fail start "found unknown escape character"
        else match s.hexAhead 2 width with
          | none => s.fail start "did not find expected hexdecimal number"
          | some v =>
            if (0xD800 ≤ v && v ≤ 0xDFFF) || v > 0x10FFFF then
              s.fail start "found invalid Unicode character escape code"
            else quotedWord single start f (s.skipN (2 + width)) (acc.push (Char.ofNat v))
    else quotedWord single start f s.skip (acc.push c)

/-- Reads the blanks and breaks inside a quoted scalar. -/
def quotedBlanks : Nat → Lexer → PlainRun → Lexer × PlainRun
  | 0, s, r => (s, r)
  | f + 1, s, r =>
    let c := s.ch
    if isBlank c then
      if !r.leadingBlanks then quotedBlanks f s.skip { r with whitespace := r.whitespace ++ [c] }
      else quotedBlanks f s.skip r
    else if isBreak c then
      let (s, br) := s.readBreak
      if !r.leadingBlanks then
        quotedBlanks f s { r with whitespace := [], leadingBreak := br, leadingBlanks := true }
      else quotedBlanks f s { r with trailingBreaks := r.trailingBreaks ++ br }
    else (s, r)

/-- Reads the runs of a quoted scalar up to its closing quote. -/
def quotedRuns (single : Bool) (start : Mark) :
    Nat → Lexer → Array Char → Except SyntaxError (Lexer × Array Char)
  | 0, s, acc => .ok (s, acc)
  | f + 1, s, acc => do
    if s.atDocumentMarker then s.fail start "found unexpected document indicator"
    else if isEnd s.ch && s.pos ≥ s.input.size then s.fail start "found unexpected end of stream"
    else
      let (s, acc, escapedBreak) ← quotedWord single start (s.input.size + 1) s acc
      if (single && s.ch = '\'') || (!single && s.ch = '"') then .ok (s, acc)
      else
        let (s, r) := quotedBlanks (s.input.size + 1) s { leadingBlanks := escapedBreak }
        let acc :=
          if r.leadingBlanks then acc ++ (fold r.leadingBreak r.trailingBreaks).toArray
          else acc ++ r.whitespace.toArray
        quotedRuns single start f s acc

/-- A single- or double-quoted scalar token. -/
def scanQuoted (s : Lexer) (single : Bool) : LexStep := do
  let start := s.mark
  let (s, text) ← quotedRuns single start (s.input.size + 1) s.skip #[]
  let s := s.skip
  pure (s.push (.scalar (String.ofList text.toList) (if single then .singleQuoted else .doubleQuoted))
    start s.mark)

/-- Steps over the indentation and empty lines before a block scalar's next line: the line
breaks read, and the indentation, fixed from the deepest empty line when not yet known. -/
def blockBreaks (start : Mark) (blockIndent : Int) :
    Nat → Lexer → Nat → List Char → Nat → Except SyntaxError (Lexer × Nat × List Char)
  | 0, s, indent, breaks, _ => .ok (s, indent, breaks)
  | f + 1, s, indent, breaks, maxIndent =>
    let rec spaces : Nat → Lexer → Lexer
      | 0, s => s
      | g + 1, s => if (indent = 0 || s.column < indent) && s.ch = ' ' then spaces g s.skip else s
    let s := spaces (s.input.size + 1) s
    let maxIndent := max maxIndent s.column
    if (indent = 0 || s.column < indent) && s.ch = '\t' then
      s.fail start "found a tab character where an indentation space is expected"
    else if isBreak s.ch then
      let (s, br) := s.readBreak
      blockBreaks start blockIndent f s indent (breaks ++ br) maxIndent
    else
      let indent :=
        if indent ≠ 0 then indent
        else max 1 (max maxIndent (blockIndent + 1).toNat)
      .ok (s, indent, breaks)

/-- Reads the lines of a block scalar at its indentation. -/
def blockLines (literal : Bool) (start : Mark) (blockIndent : Int) (indent : Nat) :
    Nat → Lexer → Array Char → List Char → List Char → Bool →
      Except SyntaxError (Lexer × Array Char × List Char × List Char)
  | 0, s, text, leadingBreak, trailingBreaks, _ => .ok (s, text, leadingBreak, trailingBreaks)
  | f + 1, s, text, leadingBreak, trailingBreaks, leadingBlank =>
    if s.column ≠ indent || (isEnd s.ch && s.pos ≥ s.input.size) then
      .ok (s, text, leadingBreak, trailingBreaks)
    else do
      let trailingBlank := isBlank s.ch
      let text :=
        if !literal && !leadingBlank && !trailingBlank && leadingBreak.head? = some '\n' then
          if trailingBreaks.isEmpty then text.push ' ' else text
        else text ++ leadingBreak.toArray
      let text := text ++ trailingBreaks.toArray
      let leadingBlank := isBlank s.ch
      let (s, line) := readWhile (fun c => !isBreakOrEnd c) (s.input.size + 1) s []
      let text := text ++ line.toArray
      let (s, br) := s.readBreak
      let (s, _, breaks) ← blockBreaks start blockIndent (s.input.size + 1) s indent [] 0
      blockLines literal start blockIndent indent f s text br breaks leadingBlank

/-- A literal (`|`) or folded (`>`) block scalar token. -/
def scanBlock (s : Lexer) (literal : Bool) : LexStep := do
  let start := s.mark
  let s := s.skip
  -- the chomping and indentation indicators, in either order
  let (s, chomp, increment) ←
    if s.ch = '+' || s.ch = '-' then
      let chomp : Int := if s.ch = '+' then 1 else -1
      let s := s.skip
      if s.ch.isDigit then
        if s.ch = '0' then s.fail start "found an indentation indicator equal to 0"
        else pure (s.skip, chomp, s.ch.toNat - 48)
      else pure (s, chomp, 0)
    else if s.ch.isDigit then
      if s.ch = '0' then s.fail start "found an indentation indicator equal to 0"
      else
        let increment := s.ch.toNat - 48
        let s := s.skip
        if s.ch = '+' || s.ch = '-' then pure (s.skip, (if s.ch = '+' then 1 else -1), increment)
        else pure (s, 0, increment)
    else pure (s, (0 : Int), 0)
  let s := (readWhile isBlank (s.input.size + 1) s []).1
  let s := if s.ch = '#' then (readWhile (fun c => !isBreakOrEnd c) (s.input.size + 1) s []).1 else s
  if !isBreakOrEnd s.ch then s.fail start "did not find expected comment or line break"
  else
  let s := s.skipBreak
  let stop := s.mark
  let indent : Nat :=
    if increment > 0 then (if s.indent ≥ 0 then (s.indent + increment).toNat else increment) else 0
  let (s, indent, breaks) ← blockBreaks start s.indent (s.input.size + 1) s indent [] 0
  let (s, text, leadingBreak, trailingBreaks) ←
    blockLines literal start s.indent indent (s.input.size + 1) s #[] [] breaks false
  let text := if chomp ≠ -1 then text ++ leadingBreak.toArray else text
  let text := if chomp = 1 then text ++ trailingBreaks.toArray else text
  pure (s.push (.scalar (String.ofList text.toList) (if literal then .literal else .folded)) start stop)

end Lexer

end TestDispatch.Yaml
