/-!
# Reading one record of comma-separated values

A list flag takes its value as one record of comma-separated values: `a,b` is two items, and
`"a,b"` one. The record is the first line of the text that is not empty; a quoted field may run
over line ends, and `""` inside it stands for one quote. Lines end at `\n`, and `\r\n` is read as
`\n`.

A quote inside an unquoted field is an error (`bare " in non-quoted-field`), as is a closing
quote followed by anything but a comma, a quote or the line end, and a quote never closed
(`extraneous or missing " in quoted-field`). An error names the line and the column, counted in
bytes from 1, where it was found, and also the line the record started on when that differs.
-/

namespace TestDispatch.Csv

/-- What is wrong at the place of a parse error. -/
inductive Fault where
  /-- A quote inside a field that does not start with one. -/
  | bareQuote
  /-- A quote that is neither closed nor followed by a separator. -/
  | quote
  deriving DecidableEq, Repr, Inhabited

/-- The words of a fault. -/
def Fault.message : Fault → String
  | .bareQuote => "bare \" in non-quoted-field"
  | .quote => "extraneous or missing \" in quoted-field"

/-- Where a record could not be read, and why. -/
structure ParseError where
  startLine : Nat
  line : Nat
  column : Nat
  fault : Fault
  deriving DecidableEq, Repr, Inhabited

/-- The words of a parse error. -/
def ParseError.message (e : ParseError) : String :=
  if e.startLine = e.line then
    s!"parse error on line {e.line}, column {e.column}: {e.fault.message}"
  else
    s!"record on line {e.startLine}; parse error on line {e.line}, column {e.column}: {e.fault.message}"

/-- Why no record was read. -/
inductive ReadError where
  /-- The text holds no record. -/
  | endOfInput
  | parse (e : ParseError)
  deriving DecidableEq, Repr, Inhabited

/-- The words of a read error. -/
def ReadError.message : ReadError → String
  | .endOfInput => "EOF"
  | .parse e => e.message

/-- The lines of a text, each with its line end; `\r\n` becomes `\n`, and a `\r` that ends the
text is dropped. -/
def lines (cs : List Char) : List (List Char) :=
  let rec go : Nat → List Char → List (List Char)
    | 0, _ => []
    | _ + 1, [] => []
    | fuel + 1, cs =>
      let body := cs.takeWhile (· ≠ '\n')
      match cs.dropWhile (· ≠ '\n') with
      | _ :: rest =>
        let body := if body.getLast? = some '\r' then body.dropLast else body
        (body ++ ['\n']) :: go fuel rest
      | [] => [if body.getLast? = some '\r' then body.dropLast else body]
  go (cs.length + 1) cs

/-- The number of bytes of some characters. -/
def byteWidth (cs : List Char) : Nat := cs.foldl (fun n c => n + c.utf8Size) 0

/-- Whether a rest of a line holds nothing but its line end. -/
def atLineEnd (cs : List Char) : Bool := cs.isEmpty || cs = ['\n']

/-- The position of the reader: the line and the byte column. -/
structure Position where
  line : Nat
  column : Nat
  deriving DecidableEq, Repr, Inhabited

/-- The rest of a quoted field, read into `field`. Answers the field, what follows its closing
quote on the same line, the lines after that one and the position after the closing quote. -/
def quoted (startLine : Nat) : Nat → List Char → List (List Char) → Position → List Char →
    Except ParseError (String × List Char × List (List Char) × Position)
  | 0, _, _, pos, _ => .error { startLine, line := pos.line, column := pos.column, fault := .quote }
  | fuel + 1, line, more, pos, field =>
    let before := line.takeWhile (· ≠ '"')
    match line.dropWhile (· ≠ '"') with
    | _ :: after =>
      let pos := { pos with column := pos.column + byteWidth before + 1 }
      let field := field ++ before
      match after with
      | '"' :: rest => quoted startLine fuel rest more { pos with column := pos.column + 1 } (field ++ ['"'])
      | _ => .ok (String.ofList field, after, more, pos)
    | [] =>
      if line.isEmpty then
        .error { startLine, line := pos.line, column := pos.column, fault := .quote }
      else
        let field := field ++ line
        let pos := { pos with column := pos.column + byteWidth line }
        match more with
        | next :: rest =>
          let pos := if next.isEmpty then pos else { line := pos.line + 1, column := 1 }
          quoted startLine fuel next rest pos field
        | [] => quoted startLine fuel [] [] pos field

/-- The fields of a record from the place where a field starts. -/
def fields (startLine : Nat) : Nat → List Char → List (List Char) → Position → List String →
    Except ParseError (List String)
  | 0, _, _, _, acc => .ok acc.reverse
  | fuel + 1, line, more, pos, acc =>
    match line with
    | '"' :: rest =>
      match quoted startLine (byteWidth rest + more.length + (more.map byteWidth).foldl (· + ·) 0 + 2) rest more
          { pos with column := pos.column + 1 } [] with
      | .error e => .error e
      | .ok (field, after, more, pos) =>
        match after with
        | ',' :: rest => fields startLine fuel rest more { pos with column := pos.column + 1 } (field :: acc)
        | _ =>
          if atLineEnd after then .ok (field :: acc).reverse
          else .error { startLine, line := pos.line, column := pos.column - 1, fault := .quote }
    | _ =>
      let field := line.takeWhile (· ≠ ',')
      let hasComma := line.contains ','
      let field := if hasComma then field else field.filter (· ≠ '\n')
      match field.findIdx? (· = '"') with
      | some j =>
        .error { startLine, line := pos.line, column := pos.column + byteWidth (field.take j),
                 fault := .bareQuote }
      | none =>
        if hasComma then
          fields startLine fuel (line.drop (field.length + 1)) more
            { pos with column := pos.column + byteWidth field + 1 } (String.ofList field :: acc)
        else .ok (String.ofList field :: acc).reverse

/-- The first record of a text. -/
def readRecord (text : String) : Except ReadError (List String) :=
  let ls := (lines text.toList).zipIdx
  match ls.dropWhile (fun (l, _) => atLineEnd l) with
  | [] => .error .endOfInput
  | (line, i) :: rest =>
    let more := rest.map Prod.fst
    let fuel := line.length + (more.map List.length).foldl (· + ·) 0 + 2
    (fields (i + 1) fuel line more { line := i + 1, column := 1 } []).mapError .parse

/-- The items of a list flag's value: none for the empty text, else the fields of its first
record. -/
def items (text : String) : Except ReadError (List String) :=
  if text = "" then .ok [] else readRecord text

end TestDispatch.Csv
