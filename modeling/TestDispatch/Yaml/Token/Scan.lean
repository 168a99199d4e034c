import TestDispatch.Yaml.Token.Scalar
/-!
# The token stream

`Token.scan` reads a whole stream: the tokens read, and the error that stopped reading, if one
did. Each step reads one token (and the block starts, block ends and keys it implies), deciding
by the first characters what comes next.
-/

namespace TestDispatch.Yaml

/-- The tokens of a stream, and the error that ended it early. -/
structure TokenStream where
  tokens : Array Token
  error : Option SyntaxError
  deriving Repr, Inhabited

namespace Lexer

/-- The end of the stream: every open block is closed. -/
def fetchStreamEnd (s : Lexer) : LexStep := do
  let s := if s.column ≠ 0 then { s with column := 0, line := s.line + 1 } else s
  let s := s.unrollIndent (-1) s.mark
  let s ← s.removeSimpleKey
  let s := { s with simpleKeyAllowed := false, finished := true }
  pure (s.push .streamEnd s.mark s.mark)

/-- A directive line. -/
def fetchDirective (s : Lexer) : LexStep := do
  let s := s.unrollIndent (-1) s.mark
  let s ← s.removeSimpleKey
  scanDirective { s with simpleKeyAllowed := false }

/-- `---` or `...`. -/
def fetchDocumentMarker (s : Lexer) (kind : TokenKind) : LexStep := do
  let s := s.unrollIndent (-1) s.mark
  let s ← s.removeSimpleKey
  let start := s.mark
  let s := { s with simpleKeyAllowed := false }.skipN 3
  pure (s.push kind start s.mark)

/-- `[` or `{`. -/
def fetchFlowStart (s : Lexer) (kind : TokenKind) : LexStep := do
  let s ← s.saveSimpleKey
  let s := { s.enterFlow with simpleKeyAllowed := true }
  let start := s.mark
  let s := s.skip
  pure (s.push kind start s.mark)

/-- `]` or `}`. -/
def fetchFlowEnd (s : Lexer) (kind : TokenKind) : LexStep := do
  let s ← s.removeSimpleKey
  let s := { s.leaveFlow with simpleKeyAllowed := false }
  let start := s.mark
  let s := s.skip
  pure (s.push kind start s.mark)

/-- `,` in the flow context. -/
def fetchFlowEntry (s : Lexer) : LexStep := do
  let s ← s.removeSimpleKey
  let s := { s with simpleKeyAllowed := true }
  let start := s.mark
  let s := s.skip
  pure (s.push .flowEntry start s.mark)

/-- `-` followed by a blank: an entry of a block sequence. -/
def fetchBlockEntry (s : Lexer) : LexStep := do
  let s ←
    if s.flowLevel = 0 then
      if !s.simpleKeyAllowed then s.fail s.mark "block sequence entries are not allowed in this context"
      else pure (s.rollIndent s.column none .blockSequenceStart s.mark)
    else pure s
  let s ← s.removeSimpleKey
  let s := { s with simpleKeyAllowed := true }
  let start := s.mark
  let s := s.skip
  pure (s.push .blockEntry start s.mark)

/-- `?`: a key written with the key indicator. -/
def fetchKey (s : Lexer) : LexStep := do
  let s ←
    if s.flowLevel = 0 then
      if !s.simpleKeyAllowed then s.fail s.mark "mapping keys are not allowed in this context"
      else pure (s.rollIndent s.column none .blockMappingStart s.mark)
    else pure s
  let s ← s.removeSimpleKey
  let s := { s with simpleKeyAllowed := s.flowLevel = 0 }
  let start := s.mark
  let s := s.skip
  pure (s.push .key start s.mark)

/-- `:`: the value of a key; a simple key before it gets its `key` token now. -/
def fetchValue (s : Lexer) : LexStep := do
  let (holds, s) ← s.keyStillHolds
  let s ←
    if holds then
      let k := s.currentKey
      let s := { s with tokens := s.tokens.insertIdxIfInBounds k.tokenNumber ⟨.key, k.mark, k.mark⟩ }
      let s := s.rollIndent k.mark.column (some k.tokenNumber) .blockMappingStart k.mark
      pure { s.setCurrentKey { k with possible := false } with simpleKeyAllowed := false }
    else if s.flowLevel = 0 then
      if !s.simpleKeyAllowed then s.fail s.mark "mapping values are not allowed in this context"
      else
        let s := s.rollIndent s.column none .blockMappingStart s.mark
        pure { s with simpleKeyAllowed := true }
    else pure { s with simpleKeyAllowed := false }
  let start := s.mark
  let s := s.skip
  pure (s.push .value start s.mark)

/-- Whether a plain scalar may start here. -/
def startsPlain (s : Lexer) : Bool :=
  let c := s.ch
  let next := s.ch 1
  !(isBlankOrEnd c || "-?:,[]{}#&*!|>'\"%@".toList.contains c || c = '\x60') ||
    (c = '-' && !isBlank next) ||
    (s.flowLevel = 0 && (c = '?' || c = ':') && !isBlankOrEnd next)

/-- Reads the next token, with the block ends and keys it implies. -/
def fetchNext (s : Lexer) : LexStep := do
  let scanMark := s.mark
  let s := skipToToken (s.input.size + 1) s
  let s := s.unrollIndent s.column scanMark
  let c := s.ch
  if isEnd c && s.pos ≥ s.input.size then s.fetchStreamEnd
  else if s.column = 0 && c = '%' then s.fetchDirective
  else if s.column = 0 && c = '-' && s.ch 1 = '-' && s.ch 2 = '-' && isBlankOrEnd (s.ch 3) then
    s.fetchDocumentMarker .documentStart
  else if s.column = 0 && c = '.' && s.ch 1 = '.' && s.ch 2 = '.' && isBlankOrEnd (s.ch 3) then
    s.fetchDocumentMarker .documentEnd
  else if c = '[' then s.fetchFlowStart .flowSequenceStart
  else if c = '{' then s.fetchFlowStart .flowMappingStart
  else if c = ']' then s.fetchFlowEnd .flowSequenceEnd
  else if c = '}' then s.fetchFlowEnd .flowMappingEnd
  else if c = ',' then s.fetchFlowEntry
  else if c = '-' && isBlankOrEnd (s.ch 1) then s.fetchBlockEntry
  else if c = '?' && (s.flowLevel > 0 || isBlankOrEnd (s.ch 1)) then s.fetchKey
  else if c = ':' && (s.flowLevel > 0 || isBlankOrEnd (s.ch 1)) then s.fetchValue
  else if c = '*' then do
    let s ← s.saveSimpleKey
    scanAnchor { s with simpleKeyAllowed := false } true
  else if c = '&' then do
    let s ← s.saveSimpleKey
    scanAnchor { s with simpleKeyAllowed := false } false
  else if c = '!' then do
    let s ← s.saveSimpleKey
    scanTag { s with simpleKeyAllowed := false }
  else if (c = '|' || c = '>') && s.flowLevel = 0 then do
    let s ← s.removeSimpleKey
    scanBlock { s with simpleKeyAllowed := true } (c = '|')
  else if c = '\'' || c = '"' then do
    let s ← s.saveSimpleKey
    scanQuoted { s with simpleKeyAllowed := false } (c = '\'')
  else if s.startsPlain then do
    let s ← s.saveSimpleKey
    scanPlain { s with simpleKeyAllowed := false }
  else s.fail s.mark "found character that cannot start any token"

/-- Reads tokens until the end of the stream or an error. -/
def fetchAll : Nat → Lexer → TokenStream
  | 0, s => ⟨s.tokens, none⟩
  | fuel + 1, s =>
    if s.finished then ⟨s.tokens, none⟩
    else match s.fetchNext with
      | .ok s' => fetchAll fuel s'
      | .error e => ⟨s.tokens, some e⟩

end Lexer

/-- The lexer at the start of a stream, the stream-start token read. A byte order mark at the
start is skipped; a character the format does not allow anywhere in the stream is an error. -/
def Lexer.start (text : String) : Except SyntaxError Lexer :=
  let chars := match text.toList with
    | '\uFEFF' :: rest => rest
    | cs => cs
  if chars.any (fun c => !isAllowed c) then .error ⟨false, 0, 0, "control characters are not allowed"⟩
  else
    let s : Lexer := { input := chars.toArray, simpleKeyAllowed := true, simpleKeys := [{}] }
    .ok (s.push .streamStart s.mark s.mark)

/-- The tokens of a stream. -/
def Token.scan (text : String) : TokenStream :=
  match Lexer.start text with
  | .error e => ⟨#[], some e⟩
  | .ok s => Lexer.fetchAll (s.input.size + 4) s

end TestDispatch.Yaml
