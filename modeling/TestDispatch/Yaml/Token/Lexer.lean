import TestDispatch.Text.Decimal
import TestDispatch.Yaml.Token
/-!
# Cutting a YAML stream into tokens

`Token.scan` cuts a character stream into tokens, by the rules of YAML 1.1 as the common C
reader applies them. Indentation is turned into explicit block starts and ends, and a key that
is written without `?` (a *simple key*) is recognised when its `:` follows: a `key` token, and
when needed a block-mapping start, are then inserted before the key's first token. A simple key
must fit on one line and in 1024 characters; one that stands where a mapping key is required
and is never followed by `:` is an error.

The lexer keeps the tokens read so far, so that an error found after some tokens leaves those
tokens usable: a reader that stops before the error never sees it.
-/

namespace TestDispatch.Yaml

/-- A place where a key written without `?` may begin. -/
structure SimpleKey where
  possible : Bool := false
  required : Bool := false
  tokenNumber : Nat := 0
  mark : Mark := {}
  deriving DecidableEq, Repr, Inhabited

/-- The state of the lexer. -/
structure Lexer where
  input : Array Char
  pos : Nat := 0
  line : Nat := 0
  column : Nat := 0
  flowLevel : Nat := 0
  indent : Int := -1
  indents : List Int := []
  simpleKeyAllowed : Bool := false
  /-- The possible simple key of each flow level, innermost first. -/
  simpleKeys : List SimpleKey := []
  tokens : Array Token := #[]
  finished : Bool := false
  deriving Repr, Inhabited

/-- A step of the lexer. -/
abbrev LexStep := Except SyntaxError Lexer

namespace Lexer

/-- The character `k` places ahead; NUL past the end. -/
def ch (s : Lexer) (k : Nat := 0) : Char := s.input.getD (s.pos + k) '\x00'

/-- The current place. -/
def mark (s : Lexer) : Mark := ⟨s.pos, s.line, s.column⟩

/-- Steps over one character that is no line break. -/
def skip (s : Lexer) : Lexer := { s with pos := s.pos + 1, column := s.column + 1 }

/-- Steps over `n` characters that are no line breaks. -/
def skipN (s : Lexer) (n : Nat) : Lexer := { s with pos := s.pos + n, column := s.column + n }

/-- Steps over a line break; CR LF counts as one. -/
def skipBreak (s : Lexer) : Lexer :=
  if s.ch = '\r' && s.ch 1 = '\n' then { s with pos := s.pos + 2, line := s.line + 1, column := 0 }
  else if isBreak s.ch then { s with pos := s.pos + 1, line := s.line + 1, column := 0 }
  else s

/-- Reads a line break as it stands in a scalar: CR LF, CR, LF and NEL read as LF, LS and PS as
themselves. -/
def readBreak (s : Lexer) : Lexer × List Char :=
  let c := s.ch
  if isBreak c then
    (s.skipBreak, if c = '\u2028' || c = '\u2029' then [c] else ['\n'])
  else (s, [])

/-- The error of the lexer, with the mark of its context. -/
def fail {α : Type} (s : Lexer) (context : Mark) (problem : String) : Except SyntaxError α :=
  .error ⟨true, context.line, s.line, problem⟩

/-- Appends a token. -/
def push (s : Lexer) (kind : TokenKind) (start stop : Mark) : Lexer :=
  { s with tokens := s.tokens.push ⟨kind, start, stop⟩ }

/-- The simple key of the innermost flow level. -/
def currentKey (s : Lexer) : SimpleKey := s.simpleKeys.headD {}

/-- Replaces the simple key of the innermost flow level. -/
def setCurrentKey (s : Lexer) (k : SimpleKey) : Lexer :=
  { s with simpleKeys := k :: s.simpleKeys.tail }

/-! ## Simple keys and indentation -/

/-- Drops the possible simple key; an error when it was required. -/
def removeSimpleKey (s : Lexer) : LexStep :=
  let k := s.currentKey
  if k.possible && k.required then s.fail k.mark "could not find expected ':'"
  else .ok (s.setCurrentKey { k with possible := false })

/-- Records that a simple key may start here, when one may. -/
def saveSimpleKey (s : Lexer) : LexStep :=
  if s.simpleKeyAllowed then do
    let required := s.flowLevel = 0 && s.indent = (s.column : Int)
    let k : SimpleKey := { possible := true, required, tokenNumber := s.tokens.size, mark := s.mark }
    let s ← s.removeSimpleKey
    pure (s.setCurrentKey k)
  else .ok s

/-- Whether the possible simple key still holds: it must be on the current line and within 1024
characters. A required key that no longer holds is an error. -/
def keyStillHolds (s : Lexer) : Except SyntaxError (Bool × Lexer) :=
  let k := s.currentKey
  if !k.possible then .ok (false, s)
  else if k.mark.line < s.line || k.mark.index + 1024 < s.pos then
    if k.required then s.fail k.mark "could not find expected ':'"
    else .ok (false, s.setCurrentKey { k with possible := false })
  else .ok (true, s)

/-- Opens a flow level. -/
def enterFlow (s : Lexer) : Lexer :=
  { s with flowLevel := s.flowLevel + 1, simpleKeys := {} :: s.simpleKeys }

/-- Closes a flow level. -/
def leaveFlow (s : Lexer) : Lexer :=
  if s.flowLevel > 0 then { s with flowLevel := s.flowLevel - 1, simpleKeys := s.simpleKeys.tail }
  else s

/-- In the block context, opens a deeper indentation level at `column` with a start token,
appended or inserted at position `place`. -/
def rollIndent (s : Lexer) (column : Nat) (place : Option Nat) (kind : TokenKind) (m : Mark) :
    Lexer :=
  if s.flowLevel > 0 || (s.indent ≥ (column : Int)) then s
  else
    let s := { s with indents := s.indent :: s.indents, indent := column }
    let t : Token := ⟨kind, m, m⟩
    match place with
    | none => { s with tokens := s.tokens.push t }
    | some i => { s with tokens := s.tokens.insertIdxIfInBounds i t }

/-- Closes every indentation level deeper than `column`, each with a block end. -/
def unrollIndent (s : Lexer) (column : Int) (m : Mark) : Lexer :=
  if s.flowLevel > 0 then s
  else
    let blockMark : Mark := { m with index := m.index - 1 }
    let rec close : List Int → Lexer → Lexer
      | [], s => s
      | outer :: rest, s =>
        if s.indent > column then
          close rest { s with tokens := s.tokens.push ⟨.blockEnd, blockMark, blockMark⟩,
                              indent := outer, indents := rest }
        else s
    close s.indents s

/-! ## Between tokens -/

/-- Steps over blanks, comments and line breaks up to the next token. A tab is skipped only in
the flow context or where no simple key may start. -/
def skipToToken : Nat → Lexer → Lexer
  | 0, s => s
  | fuel + 1, s =>
    let s := if s.column = 0 && s.ch = '\uFEFF' then s.skip else s
    let rec blanks : Nat → Lexer → Lexer
      | 0, s => s
      | f + 1, s =>
        if s.ch = ' ' || ((s.flowLevel > 0 || !s.simpleKeyAllowed) && s.ch = '\t') then
          blanks f s.skip
        else s
    let s := blanks (s.input.size + 1) s
    let rec comment : Nat → Lexer → Lexer
      | 0, s => s
      | f + 1, s => if isBreakOrEnd s.ch then s else comment f s.skip
    let s := if s.ch = '#' then comment (s.input.size + 1) s else s
    if isBreak s.ch then
      let s := s.skipBreak
      skipToToken fuel (if s.flowLevel = 0 then { s with simpleKeyAllowed := true } else s)
    else s

/-! ## Anchors and tags -/

/-- Reads characters while they satisfy `p`. -/
def readWhile (p : Char → Bool) : Nat → Lexer → List Char → Lexer × List Char
  | 0, s, acc => (s, acc.reverse)
  | f + 1, s, acc => if p s.ch then readWhile p f s.skip (s.ch :: acc) else (s, acc.reverse)

/-- An anchor `&name` or an alias `*name`. -/
def scanAnchor (s : Lexer) (isAlias : Bool) : LexStep :=
  let start := s.mark
  let s := s.skip
  let (s, name) := readWhile isWordChar (s.input.size + 1) s []
  let c := s.ch
  if name.isEmpty || !(isBlankOrEnd c || c = '?' || c = ':' || c = ',' || c = ']' || c = '}' ||
      c = '%' || c = '@' || c = '\x60') then
    s.fail start "did not find expected alphabetic or numeric character"
  else
    let n := String.ofList name
    .ok (s.push (if isAlias then .alias n else .anchor n) start s.mark)

/-- A character that may stand in a tag's URI; `,`, `[` and `]` only in a verbatim tag. -/
def isUriChar (verbatim : Bool) (c : Char) : Bool :=
  isWordChar c || ";/?:@&=+$.!~*'()".toList.contains c || (verbatim && ",[]".toList.contains c)

/-- Reads the URI of a tag after `head`, `%XX` escapes decoded. -/
def scanTagUri (s : Lexer) (verbatim : Bool) (head : List Char) (start : Mark) :
    Except SyntaxError (Lexer × List Char) :=
  let rec go : Nat → Lexer → List Char → Bool → Except SyntaxError (Lexer × List Char)
    | 0, s, acc, any => if any then .ok (s, acc.reverse) else s.fail start "did not find expected tag URI"
    | f + 1, s, acc, any =>
      let c := s.ch
      if c = '%' then
        if isHex (s.ch 1) && isHex (s.ch 2) then
          go f (s.skipN 3) (Char.ofNat (hexValue (s.ch 1) * 16 + hexValue (s.ch 2)) :: acc) true
        else s.fail start "did not find URI escaped octet"
      else if isUriChar verbatim c then go f s.skip (c :: acc) true
      else if any then .ok (s, acc.reverse)
      else s.fail start "did not find expected tag URI"
  go (s.input.size + 1) s (head.drop 1).reverse (head.length > 0)

/-- Reads a tag handle: `!`, `!!` or `!word!`; a `!word` that does not end in `!` is returned as
read, to be taken as the start of a URI. -/
def scanTagHandle (s : Lexer) (directive : Bool) (start : Mark) :
    Except SyntaxError (Lexer × List Char) :=
  if s.ch ≠ '!' then s.fail start "did not find expected '!'"
  else
    let (s, word) := readWhile isWordChar (s.input.size + 1) s.skip []
    if s.ch = '!' then .ok (s.skip, '!' :: word ++ ['!'])
    else if directive && !word.isEmpty then s.fail start "did not find expected '!'"
    else .ok (s, '!' :: word)

/-- A tag: `!<uri>`, `!handle!suffix`, `!suffix` or `!`. -/
def scanTag (s : Lexer) : LexStep := do
  let start := s.mark
  let (s, handle, suffix) ←
    if s.ch 1 = '<' then do
      let (s, uri) ← scanTagUri (s.skipN 2) true [] start
      if s.ch ≠ '>' then s.fail start "did not find the expected '>'"
      else pure (s.skip, [], uri)
    else do
      let (s, handle) ← scanTagHandle s false start
      if handle.length > 1 && handle.head? = some '!' && handle.getLast? = some '!' then do
        let (s, suffix) ← scanTagUri s false [] start
        pure (s, handle, suffix)
      else do
        let (s, suffix) ← scanTagUri s false handle start
        if suffix.isEmpty then pure (s, [], ['!']) else pure (s, ['!'], suffix)
  if !isBlankOrEnd s.ch && !(s.flowLevel > 0 && s.ch = ',') then
    s.fail start "did not find expected whitespace or line break"
  else pure (s.push (.tag (String.ofList handle) (String.ofList suffix)) start s.mark)

/-! ## Directives -/

/-- The digits of a version number. -/
def scanVersionNumber (s : Lexer) (start : Mark) : Except SyntaxError (Lexer × Nat) :=
  let (s, ds) := readWhile Char.isDigit (s.input.size + 1) s []
  if ds.isEmpty then s.fail start "did not find expected version number"
  else if ds.length > 9 then s.fail start "found extremely long version number"
  else .ok (s, Text.decimalValue ds)

/-- A directive line: `%YAML major.minor` or `%TAG handle prefix`. -/
def scanDirective (s : Lexer) : LexStep := do
  let start := s.mark
  let (s, name) := readWhile isWordChar (s.input.size + 1) s.skip []
  if name.isEmpty then s.fail start "could not find expected directive name"
  else if !isBlankOrEnd s.ch then s.fail start "found unexpected non-alphabetical character"
  else
  let skipBlanks (s : Lexer) : Lexer := (readWhile isBlank (s.input.size + 1) s []).1
  let s ← if name = "YAML".toList then do
      let s := skipBlanks s
      let (s, major) ← scanVersionNumber s start
      if s.ch ≠ '.' then s.fail start "did not find expected digit or '.' character"
      else
        let (s, minor) ← scanVersionNumber s.skip start
        pure (s.push (.versionDirective major minor) start s.mark)
    else if name = "TAG".toList then do
      let s := skipBlanks s
      let (s, handle) ← scanTagHandle s true start
      if !isBlank s.ch then s.fail start "did not find expected whitespace"
      else
        let s := skipBlanks s
        let (s, pfx) ← scanTagUri s false [] start
        if !isBlankOrEnd s.ch then s.fail start "did not find expected whitespace or line break"
        else pure (s.push (.tagDirective (String.ofList handle) (String.ofList pfx)) start s.mark)
    else s.fail start "found unknown directive name"
  let s := skipBlanks s
  let s := if s.ch = '#' then (readWhile (fun c => !isBreakOrEnd c) (s.input.size + 1) s []).1 else s
  if !isBreakOrEnd s.ch then s.fail start "did not find expected comment or line break"
  else pure s.skipBreak

end Lexer

end TestDispatch.Yaml
