import TestDispatch.Yaml.Token.Scan
import TestDispatch.Yaml.Node
/-!
# Reading a document

`Document.read` reads the first document of a stream into a tree of nodes, or finds no document
(an empty stream, or one of comments only).

Tokens are cut from the stream as the reader needs them, the way a streaming reader cuts them:
before the reader looks at a token, the lexer reads at least two tokens past it, and further
while the token may still turn out to be a key. So an error in the stream is reported only when
it stands near enough to what the reader reaches; text after the first document is read only
that far, and an error further on is never seen.

The reader follows the YAML grammar production by production. Each production peeks at the
next token to decide, and reports an error with the place of the construct it was reading (a
flow sequence's `[`, a block mapping's first key) and the place of the token that did not fit.
-/

namespace TestDispatch.Yaml

/-- The state of the reader. -/
structure Reader where
  lexer : Lexer
  /-- The number of the next token to read. -/
  head : Nat := 0
  /-- The tag handles in effect and their prefixes. -/
  tags : List (String × String) := []
  /-- Anchor names and the numbers of the nodes they name, latest first. -/
  anchors : List (String × Nat) := []
  anchored : Array Node := #[]
  deriving Inhabited

/-- A step of the reader. -/
abbrev ReadM := StateT Reader (Except YamlError)

namespace Lexer

/-- The possible simple key that starts at token `n`. -/
def pendingKey (s : Lexer) (n : Nat) : Option SimpleKey :=
  s.simpleKeys.find? fun k => k.possible && k.tokenNumber = n

/-- Gives up the possible simple key at token `n`. -/
def dropKey (s : Lexer) (n : Nat) : Lexer :=
  { s with simpleKeys := s.simpleKeys.map fun k =>
      if k.possible && k.tokenNumber = n then { k with possible := false } else k }

/-- Reads tokens until two stand past token `head` and that token can no longer become a key.
A key that has moved to a later line or past 1024 characters is given up; if it was required,
that is an error. -/
def fill (head : Nat) : Nat → Lexer → Except SyntaxError Lexer
  | 0, s => .ok s
  | fuel + 1, s =>
    if s.finished then .ok s
    else
      let more (s : Lexer) : Except SyntaxError Lexer :=
        match s.fetchNext with
        | .ok s' => fill head fuel s'
        | .error e => .error e
      if head + 2 < s.tokens.size then
        match s.pendingKey head with
        | none => .ok s
        | some k =>
          if k.mark.line < s.line || k.mark.index + 1024 < s.pos then
            if k.required then .error ⟨true, k.mark.line, s.line, "could not find expected ':'"⟩
            else .ok (s.dropKey head)
          else more s
      else more s

end Lexer

namespace Reader

/-- The next token, reading more of the stream as needed. -/
def peek : ReadM Token := do
  let (head, lexer) ← modifyGet fun r => ((r.head, r.lexer), { r with lexer := { input := #[] } })
  match Lexer.fill head (lexer.input.size + 4) lexer with
  | .error e => throw (.malformed e)
  | .ok s =>
    modify fun r => { r with lexer := s }
    pure (s.tokens.getD head ⟨.streamEnd, s.mark, s.mark⟩)

/-- Steps past the next token. -/
def advance : ReadM Unit := modify fun r => { r with head := r.head + 1 }

/-- An error of the grammar, with the place of the construct being read when there is one. -/
def grammarError {α : Type} (context : Option Mark) (problem : Mark) (what : String) : ReadM α :=
  throw (.malformed ⟨false, (context.map (·.line)).getD 0, problem.line, what⟩)

/-- Reserves a number for a node with an anchor, so that aliases inside it can name it. -/
def reserve (anchor : Option String) : ReadM (Option Nat) := do
  match anchor with
  | none => pure none
  | some name =>
    let r ← get
    let id := r.anchored.size
    set { r with anchored := r.anchored.push default, anchors := (name, id) :: r.anchors }
    pure (some id)

/-- Records the node a reserved number names, and returns it. -/
def settle (id : Option Nat) (n : Node) : ReadM Node := do
  match id with
  | none => pure n
  | some i => modify (fun r => { r with anchored := r.anchored.set! i n }); pure n

/-- Whether a token is of one of the kinds that end an entry. -/
def endsEntry (t : Token) (kinds : List TokenKind) : Bool := kinds.contains t.kind

/-- The full tag a tag token names under the handles in effect. -/
def fullTag (start tagMark : Mark) : Option (String × String) → ReadM String
  | none => pure ""
  | some (handle, suffix) => do
    if handle = "" then pure suffix
    else
      match (← get).tags.lookup handle with
      | some pfx => pure (pfx ++ suffix)
      | none => grammarError (some start) tagMark "found undefined tag handle"

mutual

/-- A node, with its anchor and tag. `block` says whether a block collection may stand here,
`indentless` whether a sequence may start at the indentation of the enclosing mapping. -/
def node : Nat → Bool → Bool → ReadM Node
  | 0, _, _ => throw (.fatal "document nests too deeply")
  | fuel + 1, block, indentless => do
    let first ← peek
    let tok := first
    match tok.kind with
    | .alias name =>
      advance
      match (← get).anchors.lookup name with
      | some id => pure (.alias (tok.start.line + 1) name id)
      | none => throw (.fatal s!"unknown anchor '{name}' referenced")
    | _ =>
      let (anchor, tagToken, tagMark, tok) ← match tok.kind with
        | .anchor name => do
          advance
          let t ← peek
          match t.kind with
          | .tag h s => advance; pure (some name, some (h, s), t.start, ← peek)
          | _ => pure (some name, none, tok.start, t)
        | .tag h s => do
          advance
          let t ← peek
          match t.kind with
          | .anchor name => advance; pure (some name, some (h, s), tok.start, ← peek)
          | _ => pure (none, some (h, s), tok.start, t)
        | _ => pure (none, none, tok.start, tok)
      content fuel block indentless anchor tagToken tagMark first.start tok

/-- A node after its properties, which start at `start`: `tok` is the first token of its
content. -/
def content : Nat → Bool → Bool → Option String → Option (String × String) → Mark → Mark → Token →
    ReadM Node
  | 0, _, _, _, _, _, _, _ => throw (.fatal "document nests too deeply")
  | fuel + 1, block, indentless, anchor, tagToken, tagMark, start, tok => do
    let tag ← fullTag start tagMark tagToken
    let line := start.line + 1
    let id ← reserve anchor
    if indentless && tok.kind = .blockEntry then
      let items ← indentlessEntries fuel []
      settle id (.sequence line (Node.collectionTag tag "!!seq") items)
    else match tok.kind with
      | .scalar text style =>
        advance
        settle id (Node.ofScalar line tag text style)
      | .flowSequenceStart =>
        advance
        let items ← flowSequenceEntries fuel tok.start true []
        settle id (.sequence line (Node.collectionTag tag "!!seq") items)
      | .flowMappingStart =>
        advance
        let entries ← flowMappingEntries fuel tok.start true []
        settle id (.mapping line (Node.collectionTag tag "!!map") entries)
      | .blockSequenceStart =>
        if block then
          advance
          let items ← blockSequenceEntries fuel tok.start []
          settle id (.sequence line (Node.collectionTag tag "!!seq") items)
        else missing anchor tagToken id line tag start tok
      | .blockMappingStart =>
        if block then
          advance
          let entries ← blockMappingEntries fuel tok.start []
          settle id (.mapping line (Node.collectionTag tag "!!map") entries)
        else missing anchor tagToken id line tag start tok
      | _ => missing anchor tagToken id line tag start tok

/-- A node without content: an empty scalar when it has an anchor or a tag, else an error. -/
def missing (anchor : Option String) (tagToken : Option (String × String)) (id : Option Nat)
    (line : Nat) (tag : String) (start : Mark) (tok : Token) : ReadM Node :=
  if anchor.isSome || tagToken.isSome then settle id (Node.ofScalar line tag "" .plain)
  else
    grammarError (some start) tok.start "did not find expected node content"

/-- The entries of a sequence written with `-` at the indentation of its mapping. -/
def indentlessEntries : Nat → List Node → ReadM (List Node)
  | 0, _ => throw (.fatal "document nests too deeply")
  | fuel + 1, acc => do
    let tok ← peek
    if tok.kind = .blockEntry then
      advance
      let t ← peek
      let item ← if endsEntry t [.blockEntry, .key, .value, .blockEnd] then pure (Node.empty (tok.stop.line + 1))
        else node fuel true false
      indentlessEntries fuel (item :: acc)
    else pure acc.reverse

/-- The entries of a block sequence, after its start. -/
def blockSequenceEntries : Nat → Mark → List Node → ReadM (List Node)
  | 0, _, _ => throw (.fatal "document nests too deeply")
  | fuel + 1, opening, acc => do
    let tok ← peek
    if tok.kind = .blockEntry then
      advance
      let t ← peek
      let item ← if endsEntry t [.blockEntry, .blockEnd] then pure (Node.empty (tok.stop.line + 1))
        else node fuel true false
      blockSequenceEntries fuel opening (item :: acc)
    else if tok.kind = .blockEnd then
      advance
      pure acc.reverse
    else grammarError (some opening) tok.start "did not find expected '-' indicator"

/-- The entries of a block mapping, after its start. -/
def blockMappingEntries : Nat → Mark → List (Node × Node) → ReadM (List (Node × Node))
  | 0, _, _ => throw (.fatal "document nests too deeply")
  | fuel + 1, opening, acc => do
    let tok ← peek
    if tok.kind = .key then
      advance
      let t ← peek
      let k ← if endsEntry t [.key, .value, .blockEnd] then pure (Node.empty (tok.stop.line + 1))
        else node fuel true true
      let t ← peek
      let v ← if t.kind = .value then do
          advance
          let t2 ← peek
          if endsEntry t2 [.key, .value, .blockEnd] then pure (Node.empty (t.stop.line + 1))
          else node fuel true true
        else pure (Node.empty (t.start.line + 1))
      blockMappingEntries fuel opening ((k, v) :: acc)
    else if tok.kind = .blockEnd then
      advance
      pure acc.reverse
    else grammarError (some opening) tok.start "did not find expected key"

/-- The entries of a flow sequence, after its `[`. An entry `k: v` is a mapping of one pair. -/
def flowSequenceEntries : Nat → Mark → Bool → List Node → ReadM (List Node)
  | 0, _, _, _ => throw (.fatal "document nests too deeply")
  | fuel + 1, opening, first, acc => do
    let tok ← peek
    if tok.kind = .flowSequenceEnd then
      advance
      pure acc.reverse
    else
      let tok ← if first then pure tok
        else if tok.kind = .flowEntry then do advance; peek
        else grammarError (some opening) tok.start "did not find expected ',' or ']'"
      if tok.kind = .key then
        advance
        let t ← peek
        let k ← if endsEntry t [.value, .flowEntry, .flowSequenceEnd] then do
            advance
            pure (Node.empty (t.stop.line + 1))
          else node fuel false false
        let t ← peek
        let v ← if t.kind = .value then do
            advance
            let t2 ← peek
            if endsEntry t2 [.flowEntry, .flowSequenceEnd] then pure (Node.empty (t.start.line + 1))
            else node fuel false false
          else pure (Node.empty (t.start.line + 1))
        let _ ← peek
        flowSequenceEntries fuel opening false (.mapping (tok.start.line + 1) "!!map" [(k, v)] :: acc)
      else if tok.kind = .flowSequenceEnd then
        advance
        pure acc.reverse
      else
        let item ← node fuel false false
        flowSequenceEntries fuel opening false (item :: acc)

/-- The entries of a flow mapping, after its `{`. -/
def flowMappingEntries : Nat → Mark → Bool → List (Node × Node) → ReadM (List (Node × Node))
  | 0, _, _, _ => throw (.fatal "document nests too deeply")
  | fuel + 1, opening, first, acc => do
    let tok ← peek
    if tok.kind = .flowMappingEnd then
      advance
      pure acc.reverse
    else
      let tok ← if first then pure tok
        else if tok.kind = .flowEntry then do advance; peek
        else grammarError (some opening) tok.start "did not find expected ',' or '\x7d'"
      if tok.kind = .key then
        advance
        let t ← peek
        let k ← if endsEntry t [.value, .flowEntry, .flowMappingEnd] then pure (Node.empty (t.start.line + 1))
          else node fuel false false
        let t ← peek
        let v ← if t.kind = .value then do
            advance
            let t2 ← peek
            if endsEntry t2 [.flowEntry, .flowMappingEnd] then pure (Node.empty (t2.start.line + 1))
            else node fuel false false
          else pure (Node.empty (t.start.line + 1))
        flowMappingEntries fuel opening false ((k, v) :: acc)
      else if tok.kind = .flowMappingEnd then
        advance
        pure acc.reverse
      else
        let k ← node fuel false false
        let t ← peek
        flowMappingEntries fuel opening false ((k, Node.empty (t.start.line + 1)) :: acc)

end

/-- The tag handles every document has. -/
def defaultTags : List (String × String) := [("!", "!"), ("!!", standardTagPrefix)]

/-- The directives before a document: at most one `%YAML 1.1`, and `%TAG` lines with distinct
handles. -/
def directives : Nat → Bool → List (String × String) → ReadM (List (String × String))
  | 0, _, tags => pure tags
  | fuel + 1, seenVersion, tags => do
    let tok ← peek
    match tok.kind with
    | .versionDirective major minor =>
      if seenVersion then grammarError none tok.start "found duplicate %YAML directive"
      else if major ≠ 1 || minor ≠ 1 then grammarError none tok.start "found incompatible YAML document"
      else do advance; directives fuel true tags
    | .tagDirective handle pfx =>
      if (tags.lookup handle).isSome then grammarError none tok.start "found duplicate %TAG directive"
      else do advance; directives fuel seenVersion (tags ++ [(handle, pfx)])
    | _ =>
      pure (tags ++ defaultTags.filter fun (h, _) => (tags.lookup h).isNone)

/-- Whether a token starts a document's preamble or ends the stream. -/
def isDocumentBoundary (t : Token) : Bool :=
  match t.kind with
  | .versionDirective .. | .tagDirective .. | .documentStart | .streamEnd => true
  | _ => false

/-- The first document of the stream, if there is one. -/
def firstDocument (fuel : Nat) : ReadM (Option Node) := do
  let _ ← peek
  advance
  let tok ← peek
  if !isDocumentBoundary tok then
    let tags ← directives fuel false []
    modify fun r => { r with tags }
    let root ← node fuel true false
    let _ ← peek
    pure (some root)
  else if tok.kind ≠ .streamEnd then
    let tags ← directives fuel false []
    modify fun r => { r with tags }
    let tok ← peek
    if tok.kind ≠ .documentStart then grammarError none tok.start "did not find expected <document start>"
    else
      advance
      let tok ← peek
      let root ← if isDocumentBoundary tok || tok.kind = .documentEnd then pure (Node.empty (tok.start.line + 1))
        else node fuel true false
      let _ ← peek
      pure (some root)
  else pure none

end Reader

/-- Reads the first document of a stream; `none` when the stream holds no document. -/
def Document.read (text : String) : Except YamlError (Option Document) :=
  match Lexer.start text with
  | .error e => .error (.malformed e)
  | .ok lexer =>
    let fuel := 16 * (lexer.input.size + 4)
    match (Reader.firstDocument fuel).run { lexer } with
    | .error e => .error e
    | .ok (none, _) => .ok none
    | .ok (some root, r) => .ok (some { root, anchored := r.anchored })

end TestDispatch.Yaml
